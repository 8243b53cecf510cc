import TenantAuth.Proofs.Token.Authenticity

/-!
This module contains tokens that are signed with a shared secret. Whoever holds the secret can issue
tokens that are authentic (`authenticates_issue`), and what becomes of them depends on the payload only
(`open?_issue`).
-/

namespace TenantAuth

namespace TokenParts

def text (p : TokenParts) : String :=
  p.header ++ "." ++ p.payload ++ "." ++ p.signature

def issue (secret : List UInt8) (h : Crypto.Hash) (header payload : String) : TokenParts where
  header
  payload
  signature := TokenKey.sign secret h (header ++ "." ++ payload).toUTF8.data.toList

variable {secret : List UInt8} {h : Crypto.Hash} {header payload : String} {a : Algorithm}
  {w : Json.Written}

theorem mem_urlDigits_of_mem_issue {c : Char} (hc : c ∈ (issue secret h header payload).signature.toList)
    : c ∈ Crypto.Base64.urlDigits := by
  simp only [issue, TokenKey.sign, String.toList_ofList] at hc
  exact Crypto.Base64.mem_urlDigits_of_mem_encodeUrl hc

theorem split_text_issue (ha : (issue secret h header payload).algorithm? = some a)
    (hw : decode? payload = some w)
    : Text.split '.' (issue secret h header payload).text
        =
      [header, payload, (issue secret h header payload).signature] := by
  rw [Text.split_eq_three_iff]
  refine ⟨?_, ?_, ?_, ?_⟩
  . simp [text, issue]
  . exact not_mem_of_mem_urlDigits (mem_urlDigits_of_algorithm? ha)
  . exact not_mem_of_mem_urlDigits (mem_urlDigits_of_decode? hw)
  . exact not_mem_of_mem_urlDigits fun c hc => mem_urlDigits_of_mem_issue hc

theorem mem_text_issue (ha : (issue secret h header payload).algorithm? = some a) (hw : decode? payload = some w)
    : ∀ c ∈ (issue secret h header payload).text.toList, c ∈ '.' :: Crypto.Base64.urlDigits := by
  intro c hc
  have hheader := mem_urlDigits_of_algorithm? ha c
  have hpayload := mem_urlDigits_of_decode? hw c
  have hsignature := @mem_urlDigits_of_mem_issue secret h header payload c
  simp only [text, String.toList_append, List.mem_append] at hc
  rcases hc with (((hc | hc) | hc) | hc) | hc
  . exact List.mem_cons_of_mem _ (hheader hc)
  . exact List.mem_cons.2 (.inl (by simpa using hc))
  . exact List.mem_cons_of_mem _ (hpayload hc)
  . exact List.mem_cons.2 (.inl (by simpa using hc))
  . exact List.mem_cons_of_mem _ (hsignature hc)

theorem trim_text_issue (ha : (issue secret h header payload).algorithm? = some a)
    (hw : decode? payload = some w)
    : Text.trim (issue secret h header payload).text = (issue secret h header payload).text := by
  have hdigits : ('.' :: Crypto.Base64.urlDigits).all fun c => Text.isBlank c == false := by decide
  apply Text.trim_eq_self_of_forall
  intro c hc
  rw [← beq_iff_eq]
  exact List.all_eq_true.1 hdigits c (mem_text_issue ha hw c hc)

theorem text_ne (p : TokenParts) : p.text ≠ "" := by
  intro h
  simpa [text] using congrArg String.toList h

end TokenParts

open TokenParts

variable {contents : String → Except FileFailure (List UInt8)} {s : TokenSettings} {h : Crypto.Hash}
  {header payload : String} {w : Json.Written} {c : TokenClaims}

theorem TokenSettings.authenticates_issue (huses : s.UsesSecret)
    (ha : (issue s.secret.toUTF8.data.toList h header payload).algorithm? = some (.hmac h))
    (hread : readClaims? payload = some c)
    : s.Authenticates contents (issue s.secret.toUTF8.data.toList h header payload).text
        (issue s.secret.toUTF8.data.toList h header payload) c := by
  rcases Option.bind_eq_some_iff.1 hread with ⟨w, hw, _⟩
  exact ⟨split_text_issue ha hw, ⟨.hmac h, ha, .hmac huses⟩, hread⟩

theorem TokenSettings.opens_issue (huses : s.UsesSecret)
    (ha : (issue s.secret.toUTF8.data.toList h header payload).algorithm? = some (.hmac h))
    (hclaims : (issue s.secret.toUTF8.data.toList h header payload).claims = .ok c)
    : s.Opens contents (Text.trim (issue s.secret.toUTF8.data.toList h header payload).text)
        (issue s.secret.toUTF8.data.toList h header payload) c := by
  rcases claims_eq_ok_iff.1 hclaims with ⟨hread, w, hw, hskims⟩
  rw [trim_text_issue ha hw]
  exact ⟨authenticates_issue huses ha hread, w, hw, hskims⟩

theorem TokenVerifier.open?_issue {v : TokenVerifier} {secret : List UInt8} (hkey : v.key = .secret secret)
    (ha : (issue secret h header payload).algorithm? = some (.hmac h)) (hw : decode? payload = some w)
    : v.open? (issue secret h header payload).text = (issue secret h header payload).claims := by
  apply open?_of_check (split_text_issue ha hw) ha
  rw [hkey]
  exact if_pos rfl

end TenantAuth
