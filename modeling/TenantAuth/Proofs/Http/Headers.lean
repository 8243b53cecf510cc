import TenantAuth.Http.Headers

/-!
This module contains the theory of header values. The main statements are which bytes are read as text
(`HeaderValue.text?_eq_some_iff`) and that visible ASCII, spaces and tabs are read back as they were written
(`HeaderValue.text?_ofText`).
-/

namespace TenantAuth

namespace HeaderValue

def IsReadable (v : HeaderValue) : Prop :=
  ∀ b ∈ v.bytes, isReadable b = true

def IsBlank (v : HeaderValue) : Prop :=
  ∀ b ∈ v.bytes, b = 0x20 ∨ b = 0x09

def Sendable (s : String) : Prop :=
  ∀ c ∈ s.toList, 0x20 ≤ c.toNat ∧ c.toNat < 0x7f ∨ c.toNat = 0x09

/--
A text can stand in a header that lists texts with commas between them. A comma would cut it in two.
-/
def Listable (s : String) : Prop :=
  Sendable s ∧ ',' ∉ s.toList

variable {v : HeaderValue} {s t : String}

-- Only the bytes of the value are looked at; the instance that is found by itself can go through all bytes.
instance : Decidable v.IsReadable :=
  List.decidableBAll _ v.bytes

instance : Decidable v.IsBlank :=
  List.decidableBAll _ v.bytes

instance : Decidable (Sendable s) :=
  List.decidableBAll _ s.toList

instance : Decidable (Listable s) :=
  inferInstanceAs (Decidable (_ ∧ _))

theorem text?_eq_some_iff
    : v.text? = some s
        ↔
      v.IsReadable ∧ String.ofList (v.bytes.map fun b => Char.ofNat b.toNat) = s := by
  rw [text?, Option.ite_none_right_eq_some, List.all_eq_true, Option.some.injEq, IsReadable]

theorem toNat_ofNat (b : UInt8) : (Char.ofNat b.toNat).toNat = b.toNat := by
  have hvalid : b.toNat.isValidChar := .inl (Nat.lt_trans b.toNat_lt (by decide))
  rw [Char.ofNat, dif_pos hvalid]
  rfl

theorem isReadable_iff {b : UInt8}
    : isReadable b = true ↔ 0x20 ≤ b.toNat ∧ b.toNat < 0x7f ∨ b.toNat = 0x09 := by
  have htab : b = 0x09 ↔ b.toNat = 0x09 := UInt8.toNat_inj.symm
  simp only [isReadable, Bool.or_eq_true, Bool.and_eq_true, decide_eq_true_eq, beq_iff_eq,
    UInt8.le_iff_toNat_le, UInt8.lt_iff_toNat_lt, htab]
  rfl

theorem isBlank_ofNat_iff {b : UInt8} (h : isReadable b = true)
    : Text.isBlank (Char.ofNat b.toNat) = true ↔ b = 0x20 ∨ b = 0x09 := by
  have hspace : b = 0x20 ↔ b.toNat = 0x20 := UInt8.toNat_inj.symm
  have htab : b = 0x09 ↔ b.toNat = 0x09 := UInt8.toNat_inj.symm
  rw [isReadable_iff] at h
  simp only [hspace, htab, Text.isBlank, toNat_ofNat, Bool.or_eq_true, Bool.and_eq_true, decide_eq_true_eq,
    beq_iff_eq]
  omega

theorem trim_eq_empty_iff_isBlank (h : v.text? = some s) : Text.trim s = "" ↔ v.IsBlank := by
  rcases text?_eq_some_iff.1 h with ⟨hreadable, rfl⟩
  rw [Text.trim_eq_empty_iff, String.toList_ofList, List.forall_mem_map, IsBlank]
  exact forall₂_congr fun b hb => isBlank_ofNat_iff (hreadable b hb)

theorem flatMap_utf8EncodeChar {cs : List Char} (h : ∀ c ∈ cs, c.toNat < 0x80)
    : cs.flatMap String.utf8EncodeChar = cs.map fun c => c.val.toUInt8 := by
  induction cs with
  | nil => rfl
  | cons c cs ih =>
    rw [List.forall_mem_cons] at h
    have hle : c.val ≤ 127 := UInt32.le_iff_toNat_le.2 (Nat.le_of_lt_succ h.1)
    rw [List.flatMap_cons, String.utf8EncodeChar_eq_singleton (Char.utf8Size_eq_one_iff.2 hle), ih h.2]
    rfl

theorem bytes_ofText (h : ∀ c ∈ s.toList, c.toNat < 0x80)
    : (ofText s).bytes = s.toList.map fun c => c.val.toUInt8 := by
  rw [ofText, String.toUTF8_eq_toByteArray, ← String.utf8Encode_toList, List.utf8Encode,
    List.data_toByteArray, List.toList_toArray, flatMap_utf8EncodeChar h]

theorem text?_ofText (h : Sendable s) : (ofText s).text? = some s := by
  have hascii : ∀ c ∈ s.toList, c.toNat < 0x80 := by
    intro c hc
    have := h c hc
    omega
  have hcode : ∀ c ∈ s.toList, c.val.toUInt8.toNat = c.toNat := by
    intro c hc
    rw [UInt32.toNat_toUInt8]
    exact Nat.mod_eq_of_lt (Nat.lt_trans (hascii c hc) (by decide))
  rw [text?_eq_some_iff, IsReadable, bytes_ofText hascii, List.forall_mem_map, List.map_map]
  constructor
  . intro c hc
    rw [isReadable_iff, hcode c hc]
    exact h c hc
  . have hchars : s.toList.map (fun c => Char.ofNat c.val.toUInt8.toNat) = s.toList := by
      refine (List.map_congr_left ?_).trans (List.map_id _)
      intro c hc
      rw [hcode c hc, Char.ofNat_toNat, id]
    exact (congrArg String.ofList hchars).trans String.ofList_toList

theorem sendable_of_text? (h : v.text? = some s) : Sendable s := by
  rcases text?_eq_some_iff.1 h with ⟨hreadable, rfl⟩
  unfold Sendable
  rw [String.toList_ofList, List.forall_mem_map]
  intro b hb
  rw [toNat_ofNat]
  exact isReadable_iff.1 (hreadable b hb)

theorem Sendable.sublist (hs : Sendable s) (hsub : t.toList.Sublist s.toList) : Sendable t := by
  intro c hc
  apply hs
  exact hsub.subset hc

theorem Listable.sublist (hs : Listable s) (hsub : t.toList.Sublist s.toList) : Listable t := by
  refine ⟨hs.1.sublist hsub, ?_⟩
  intro hcomma
  exact hs.2 (hsub.subset hcomma)

end HeaderValue

namespace Headers

variable {name : String} {value : HeaderValue} {entries : List (String × HeaderValue)}

theorem find_eq_none (h : ∀ e ∈ entries, e.1 ≠ name) : find name entries = none := by
  induction entries with
  | nil => rfl
  | cons e entries ih =>
    rw [List.forall_mem_cons] at h
    rw [find, if_neg h.1, ih h.2]

theorem text?_eq_none (h : ∀ e ∈ entries, e.1 ≠ name) : (Headers.mk entries).text? name = none := by
  rw [text?, get?, find_eq_none h, Option.bind_none]

theorem text?_cons_self : (Headers.mk ((name, value) :: entries)).text? name = value.text? := by
  rw [text?, get?, find, if_pos rfl, Option.bind_some]

end Headers

end TenantAuth
