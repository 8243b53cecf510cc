import Mathlib.Data.List.Nodup
import TenantAuth.Endpoint.Store
import TenantAuth.Proofs.Endpoint.Publication

/-!
This module contains what it takes for a policy to be read from JSON. Every policy that is read is one that the
constructors build from its fields, and a published list is read as it was published
(`listing_survives_json`).
-/

namespace TenantAuth

theorem Except.bind_eq_ok_iff {ε α β : Type} {x : Except ε α} {f : α → Except ε β} {b : β}
    : (x >>= f) = .ok b ↔ ∃ a, x = .ok a ∧ f a = .ok b := by
  cases x with
  | error e => simp [bind, Except.bind]
  | ok a => simp [bind, Except.bind]

namespace DecodeError

variable {ε α : Type} {a : α}

theorem ofShape_eq_ok_iff {x : Option α} : (ofShape x : Except (DecodeError ε) α) = .ok a ↔ x = some a := by
  cases x with
  | none => simp [ofShape]
  | some b => simp

theorem ofRule_eq_ok_iff {x : Except ε α} : ofRule x = .ok a ↔ x = .ok a := by
  cases x with
  | error e => simp [ofRule, Except.mapError]
  | ok b => simp

end DecodeError

namespace Json

variable {σ ε α : Type} {step : σ → String → Json → Except (DecodeError ε) σ} {name : String}
  {read : Json → Option α} {part : σ → α} {names : List String} {ms : List (String × Json)}

/--
A field decides a part of what is being read: its member sets the part and other members leave it as it is.
-/
def Decides (step : σ → String → Json → Except (DecodeError ε) σ) (name : String) (read : Json → Option α)
    (part : σ → α) : Prop :=
  ∀ s n j t, step s n j = .ok t → (n = name → read j = some (part t)) ∧ (n ≠ name → part t = part s)

theorem lookup_eq_none_of_filter (h : ms.filter (fun m => m.1 == name) = []) : lookup name ms = none := by
  induction ms with
  | nil => rfl
  | cons m ms ih =>
    rw [List.filter_cons] at h
    split at h
    . cases h
    . next hne =>
      rw [lookup, if_neg (mt beq_iff_eq.2 hne)]
      exact ih h

theorem Decides.part_eq (h : Decides step name read part) {s t : σ}
    (hms : (ms.filter fun m => m.1 == name).length ≤ 1)
    (hread : ms.foldlM (fun s m => step s m.1 m.2) s = .ok t)
    : (lookup name ms).elim (some (part s)) read = some (part t) := by
  induction ms generalizing s with
  | nil =>
    rw [List.foldlM_nil] at hread
    cases hread
    rfl
  | cons m ms ih =>
    rw [List.foldlM_cons, Except.bind_eq_ok_iff] at hread
    rcases hread with ⟨u, hstep, hread⟩
    have hpart := h s m.1 m.2 u hstep
    rw [List.filter_cons] at hms
    rw [lookup]
    split
    . next heq =>
      rw [if_pos (beq_iff_eq.2 heq), List.length_cons] at hms
      have hrest : ms.filter (fun m => m.1 == name) = [] := by
        rw [← List.length_eq_zero_iff]
        omega
      have hlast := ih (by omega) hread
      rw [lookup_eq_none_of_filter hrest] at hlast
      exact (hpart.1 heq).trans hlast
    . next hne =>
      rw [if_neg (mt beq_iff_eq.1 hne)] at hms
      rw [← hpart.2 hne]
      exact ih hms hread

theorem Record.read_eq_ok_iff {r : Record} {s t : σ}
    : r.read step s = .ok t
        ↔
      r.members.foldlM (fun s m => step s m.1 m.2) s = .ok t ∧ r.surplus = false := by
  unfold Record.read
  rw [Except.bind_eq_ok_iff]
  cases r.surplus with
  | false => simp [pure, Except.pure]
  | true => simp [throw, throwThe, MonadExceptOf.throw, bind, Except.bind]

theorem length_filter_zip_le (hnames : names.Nodup) (es : List Json)
    : ((names.zip es).filter fun m => m.1 == name).length ≤ 1 := by
  induction names generalizing es with
  | nil => exact Nat.zero_le 1
  | cons n names ih =>
    rw [List.nodup_cons] at hnames
    cases es with
    | nil => exact Nat.zero_le 1
    | cons e es =>
      rw [List.zip_cons_cons, List.filter_cons]
      split
      . next heq =>
        have hrest : (names.zip es).filter (fun m => m.1 == name) = [] := by
          rw [List.filter_eq_nil_iff]
          intro m hm hmem
          rw [beq_iff_eq] at heq hmem
          have hname : n = m.1 := heq.trans hmem.symm
          apply hnames.1
          rw [hname]
          exact (List.of_mem_zip hm).1
        rw [hrest]
        exact Nat.le_refl 1
      . exact ih hnames.2 es

theorem length_filter_members_le {j : Json} {r : Record} (hnames : names.Nodup) (hname : name ∈ names)
    (h : j.record? names = some r) : (r.members.filter fun m => m.1 == name).length ≤ 1 := by
  unfold record? at h
  split at h
  . split at h
    . next hunique =>
      cases h
      rw [List.all_eq_true] at hunique
      exact of_decide_eq_true (hunique name hname)
    . cases h
  . cases h
    exact length_filter_zip_le hnames _
  . cases h

theorem Decides.of_read (h : Decides step name read part) {j : Json} {r : Record} {s t : σ} (hnames : names.Nodup)
    (hname : name ∈ names) (hr : j.record? names = some r) (hread : r.read step s = .ok t)
    : (lookup name r.members).elim (some (part s)) read = some (part t) :=
  h.part_eq (length_filter_members_le hnames hname hr) (Record.read_eq_ok_iff.1 hread).1

def parsed? (parse : String → Except ε α) (j : Json) : Option α :=
  j.text?.bind fun raw => (parse raw).toOption

theorem exists_text_of_parsed {parse : String → Except ε α} {field : Option Json} {a : α}
    (h : field.bind (parsed? parse) = some a) : ∃ raw, field.bind text? = some raw ∧ parse raw = .ok a := by
  rcases Option.bind_eq_some_iff.1 h with ⟨j, rfl, hparsed⟩
  rcases Option.bind_eq_some_iff.1 hparsed with ⟨raw, hraw, ha⟩
  refine ⟨raw, hraw, ?_⟩
  cases hparse : parse raw with
  | error e => simp [hparse, Except.toOption] at ha
  | ok b => simpa [hparse, Except.toOption] using ha

theorem bind_of_elim {field : Option Json} {a : α}
    (h : field.elim (some none) (fun j => (read j).map some) = some (some a)) : field.bind read = some a := by
  cases field with
  | none => simp at h
  | some j => simpa using h

end Json

namespace EndpointPolicy

def fieldNames : List String := [
  "method", "pathPattern", "serviceName", "requiredRoles", "requiredPermissions", "isPublic", "requireMfa"
]

inductive Draft.Reads (d : Draft) : String → Json → Draft → Prop where
  | method {j : Json} {method : Method} (h : Method.ofJson? j = some method) :
    Reads d "method" j { d with method := some method }
  | pattern {j : Json} {raw : String} {pattern : Pattern} (hraw : j.text? = some raw)
    (h : Pattern.parse raw = .ok pattern) : Reads d "pathPattern" j { d with pattern := some pattern }
  | service {j : Json} {raw : String} {service : ServiceName} (hraw : j.text? = some raw)
    (h : ServiceName.parse raw = .ok service) : Reads d "serviceName" j { d with service := some service }
  | roles {j : Json} {names : List String} (h : j.texts? = some names) :
    Reads d "requiredRoles" j { d with requiredRoles := names.map Role.mk }
  | permissions {j : Json} {names : List String} (h : j.texts? = some names) :
    Reads d "requiredPermissions" j { d with requiredPermissions := names.map Permission.mk }
  | isPublic {j : Json} {b : Bool} (h : j.bool? = some b) : Reads d "isPublic" j { d with isPublic := b }
  | requireMfa {j : Json} {b : Bool} (h : j.bool? = some b) : Reads d "requireMfa" j { d with requireMfa := b }
  | other {name : String} (j : Json) (h : name ∉ fieldNames) : Reads d name j d

theorem Draft.reads_of_read {d d' : Draft} {name : String} {j : Json} (h : d.read name j = .ok d')
    : d.Reads name j d' := by
  unfold Draft.read at h
  split at h
  all_goals simp only [Pattern.ofJson, Except.bind_eq_ok_iff, DecodeError.ofShape_eq_ok_iff,
    DecodeError.ofRule_eq_ok_iff, pure, Except.pure, Except.ok.injEq] at h
  . rcases h with ⟨method, hmethod, rfl⟩
    exact .method hmethod
  . rcases h with ⟨pattern, ⟨raw, hraw, hpattern⟩, rfl⟩
    exact .pattern hraw hpattern
  . rcases h with ⟨raw, hraw, service, hservice, rfl⟩
    exact .service hraw hservice
  . rcases h with ⟨names, hnames, rfl⟩
    exact .roles hnames
  . rcases h with ⟨names, hnames, rfl⟩
    exact .permissions hnames
  . rcases h with ⟨b, hb, rfl⟩
    exact .isPublic hb
  . rcases h with ⟨b, hb, rfl⟩
    exact .requireMfa hb
  . rw [← h]
    apply Reads.other
    intro hname
    simp only [fieldNames, List.mem_cons, List.not_mem_nil, or_false] at hname
    grind

theorem Draft.decided
    : Json.Decides Draft.read "method" (fun j => (Method.ofJson? j).map some) Draft.method
      ∧ Json.Decides Draft.read "pathPattern" (fun j => (j.parsed? Pattern.parse).map some) Draft.pattern
      ∧ Json.Decides Draft.read "serviceName" (fun j => (j.parsed? ServiceName.parse).map some) Draft.service
      ∧ Json.Decides Draft.read "requiredRoles" Json.texts? (fun d => d.requiredRoles.map Role.name)
      ∧ Json.Decides Draft.read "requiredPermissions" Json.texts?
        (fun d => d.requiredPermissions.map Permission.name)
      ∧ Json.Decides Draft.read "isPublic" Json.bool? Draft.isPublic
      ∧ Json.Decides Draft.read "requireMfa" Json.bool? Draft.requireMfa := by
  refine ⟨?_, ?_, ?_, ?_, ?_, ?_, ?_⟩
  all_goals
    intro d name j d' h
    cases reads_of_read h with
    | other j hother =>
      simp only [fieldNames, List.mem_cons, List.not_mem_nil, or_false, not_or] at hother
      simp [hother]
    | _ => simp [Json.parsed?, Except.toOption, Function.comp_def, *]

theorem Draft.finish_eq_ok {d : Draft} {p : EndpointPolicy} (h : d.finish = .ok p)
    : ∃ method pattern service,
        d.method = some method ∧ d.pattern = some pattern ∧ d.service = some service
          ∧ p = {
            method, pattern, service
            requiredRoles := .ofList d.requiredRoles
            requiredPermissions := .ofList d.requiredPermissions
            isPublic := d.isPublic
            requireMfa := d.requireMfa
          } := by
  unfold Draft.finish at h
  split at h
  . next method pattern service hmethod hpattern hservice =>
    cases h
    exact ⟨method, pattern, service, hmethod, hpattern, hservice, rfl⟩
  . cases h

/--
The constructors build a policy from what its fields hold. Sets that are not given are empty, and flags that are
not given are not set.
-/
inductive BuiltFrom (ms : List (String × Json)) : EndpointPolicy → Prop where
  | build {method : Method} {pattern : Pattern} {base : EndpointPolicy} {raw service : String}
    {roles permissions : List String} {isPublic requireMfa : Bool}
    (hmethod : (Json.lookup "method" ms).bind Method.ofJson? = some method)
    (hraw : (Json.lookup "pathPattern" ms).bind Json.text? = some raw)
    (hpattern : Pattern.parse raw = .ok pattern)
    (hservice : (Json.lookup "serviceName" ms).bind Json.text? = some service)
    (hbase : new method pattern service = .ok base)
    (hroles : (Json.lookup "requiredRoles" ms).elim (some []) Json.texts? = some roles)
    (hpermissions : (Json.lookup "requiredPermissions" ms).elim (some []) Json.texts? = some permissions)
    (hpublic : (Json.lookup "isPublic" ms).elim (some false) Json.bool? = some isPublic)
    (hmfa : (Json.lookup "requireMfa" ms).elim (some false) Json.bool? = some requireMfa) :
    BuiltFrom ms {
      (base.withRoles (roles.map Role.mk)).withPermissions (permissions.map Permission.mk) with
      isPublic, requireMfa
    }

theorem builtFrom_of_ofJson {j : Json} {p : EndpointPolicy} (h : ofJson j = .ok p)
    : ∃ r, j.record? fieldNames = some r ∧ BuiltFrom r.members p := by
  rw [ofJson, Except.bind_eq_ok_iff] at h
  rcases h with ⟨r, hr, h⟩
  rw [DecodeError.ofShape_eq_ok_iff] at hr
  rw [Except.bind_eq_ok_iff] at h
  rcases h with ⟨d, hd, hfinish⟩
  have hnames : fieldNames.Nodup := by decide
  rcases Draft.decided with ⟨hmethod, hpattern, hservice, hroles, hpermissions, hpublic, hmfa⟩
  replace hmethod := hmethod.of_read hnames (by decide) hr hd
  replace hpattern := hpattern.of_read hnames (by decide) hr hd
  replace hservice := hservice.of_read hnames (by decide) hr hd
  replace hroles := hroles.of_read hnames (by decide) hr hd
  replace hpermissions := hpermissions.of_read hnames (by decide) hr hd
  replace hpublic := hpublic.of_read hnames (by decide) hr hd
  replace hmfa := hmfa.of_read hnames (by decide) hr hd
  rcases Draft.finish_eq_ok hfinish with ⟨method, pattern, service, hm, hp, hs, rfl⟩
  rw [hm] at hmethod
  rw [hp] at hpattern
  rw [hs] at hservice
  rcases Json.exists_text_of_parsed (Json.bind_of_elim hpattern) with ⟨raw, hraw, hparse⟩
  rcases Json.exists_text_of_parsed (Json.bind_of_elim hservice) with ⟨name, hname, hparseName⟩
  have hbase : new method pattern name = .ok { method, pattern, service } := by
    rw [new, hparseName]
    rfl
  have hbuilt := BuiltFrom.build (Json.bind_of_elim hmethod) hraw hparse hname hbase hroles hpermissions
    hpublic hmfa
  have hroleNames : Role.mk ∘ Role.name = id := rfl
  have hpermissionNames : Permission.mk ∘ Permission.name = id := rfl
  rw [List.map_map, List.map_map, hroleNames, hpermissionNames, List.map_id, List.map_id] at hbuilt
  exact ⟨r, hr, hbuilt⟩

end EndpointPolicy

theorem listing_survives_json
    : (∀ (s : EndpointStore) service, ∃ l, EndpointListing.ofJson (s.listing service).toJson = .ok l
        ∧ l = s.listing service
        ∧ ∀ method path, l.resolve method path = (s.listing service).resolve method path
          ∧ ∀ i, EndpointListing.permits (l.resolve method path) i
            = EndpointListing.permits ((s.listing service).resolve method path) i)
      ∧ ∀ j p, EndpointPolicy.ofJson j = .ok p →
        (∃ r, j.record? EndpointPolicy.fieldNames = some r ∧ p.BuiltFrom r.members)
          ∧ Pattern.parse p.pattern.text = .ok p.pattern
          ∧ Text.trim p.service.text = p.service.text ∧ p.service.text ≠ "" := by
  constructor
  . intro s service
    refine ⟨s.listing service, EndpointListing.ofJson_toJson _, rfl, ?_⟩
    intro method path
    exact ⟨rfl, fun i => rfl⟩
  . intro j p h
    exact ⟨EndpointPolicy.builtFrom_of_ofJson h, Pattern.parse_text _, p.service.trim_text, p.service.text_ne⟩

theorem listing_survives_json_of_padded_fields
    : let j : Json := .object [
        ("serviceName", .string " user-service "),
        ("comment", .null),
        ("pathPattern", .string " /users/\x7bid\x7d//**\t"),
        ("requiredRoles", Json.ofTexts ["B", "A", "A"]),
        ("method", .object [("GET", .null)])
      ]
      let p : EndpointPolicy := {
        method := .get
        pattern := ⟨"/users/\x7bid\x7d//**", [.literal "users", .single, .rest], by decide, rfl⟩
        service := ⟨"user-service", by decide, by decide⟩
        requiredRoles := .ofList [⟨"A"⟩, ⟨"B"⟩]
      }
      EndpointPolicy.ofJson j = .ok p
        ∧ (∃ r, j.record? EndpointPolicy.fieldNames = some r ∧ p.BuiltFrom r.members)
        ∧ Pattern.parse "/users/\x7bid\x7d//**" = .ok p.pattern := by
  intro j p
  have hread : EndpointPolicy.ofJson j = .ok p := rfl
  rcases listing_survives_json.2 j p hread with ⟨hbuilt, hpattern, _⟩
  exact ⟨hread, hbuilt, hpattern⟩

end TenantAuth
