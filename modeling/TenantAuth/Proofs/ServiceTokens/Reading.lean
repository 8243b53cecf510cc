import Mathlib.Data.List.Basic
import TenantAuth.Proofs.Latest
import TenantAuth.ServiceTokens

/-!
This module contains the theory of tables of service tokens that are read from a text. The main statement is
that the last well-formed item for a service decides which token is its own (`last_item_decides`).
-/

namespace TenantAuth

namespace ServiceTokens

def Lists (raw : String) (items : List String) : Prop :=
  items ≠ [] ∧ raw = ",".intercalate items ∧ ∀ item ∈ items, ',' ∉ item.toList

/--
An item gives a token to a service: the two stand before and after its first equals sign, with white space
around them that does not count, and neither is blank.
-/
def Gives (item service token : String) : Prop :=
  ∃ before after : String, item = before ++ "=" ++ after ∧ '=' ∉ before.toList
    ∧ Text.trim before = service ∧ Text.trim after = token ∧ service ≠ "" ∧ token ≠ ""

variable {t : ServiceTokens} {raw item name service token : String} {items : List String}

theorem lists_iff : Lists raw items ↔ Text.split ',' raw = items :=
  Text.split_eq_iff.symm

theorem splitFirst?_equals_iff {before after : String}
    : Text.splitFirst? '=' item = some (before, after) ↔ item = before ++ "=" ++ after ∧ '=' ∉ before.toList := by
  rw [Text.splitFirst?_eq_some_iff, ← String.toList_inj]
  simp

theorem gives_iff
    : Gives item service token
        ↔
      ∃ p, Text.splitFirst? '=' item = some p
        ∧ Text.trim p.1 = service ∧ Text.trim p.2 = token ∧ service ≠ "" ∧ token ≠ "" := by
  simp only [Prod.exists, splitFirst?_equals_iff, and_assoc, Gives]

theorem get?_register
    : (t.register service token).table.get? name
        =
      if Text.trim service = name ∧ name ≠ "" ∧ Text.trim token ≠ "" then
        some (Text.trim token)
      else
        t.table.get? name := by
  unfold register
  by_cases hservice : Text.trim service = ""
  . rw [Text.normalize?_eq_none_iff.2 hservice, hservice, if_neg]
    rintro ⟨rfl, hne, _⟩
    exact hne rfl
  . rw [Text.normalize?_eq_some_iff.2 ⟨rfl, hservice⟩]
    by_cases htoken : Text.trim token = ""
    . rw [Text.normalize?_eq_none_iff.2 htoken, if_neg fun h => h.2.2 htoken]
    . rw [Text.normalize?_eq_some_iff.2 ⟨rfl, htoken⟩]
      simp only [Table.get?_insert]
      apply if_congr _ rfl rfl
      constructor
      . rintro rfl
        exact ⟨rfl, hservice, htoken⟩
      . rintro ⟨rfl, _⟩
        rfl

def ofItems (items : List String) : ServiceTokens :=
  ofPairs (items.filterMap (Text.splitFirst? '='))

theorem parse_of_lists (h : Lists raw items) : parse raw = ofItems items := by
  rw [parse, lists_iff.1 h, ofItems]

theorem ofItems_concat
    : ofItems (items ++ [item])
        =
      (Text.splitFirst? '=' item).elim (ofItems items) fun p => (ofItems items).register p.1 p.2 := by
  unfold ofItems ofPairs
  rw [List.filterMap_append, List.foldl_append]
  cases hcut : Text.splitFirst? '=' item with
  | none => rw [List.filterMap_cons_none hcut]; rfl
  | some p => rw [List.filterMap_cons_some hcut]; rfl

-- What the last item adds to the table is what it gives; the others are as before.
theorem get?_ofItems_concat
    : (ofItems (items ++ [item])).table.get? service = some token
        ↔
      Gives item service token
        ∨ (ofItems items).table.get? service = some token ∧ ¬ ∃ other, Gives item service other := by
  simp only [ofItems_concat, gives_iff]
  cases Text.splitFirst? '=' item with
  | none => simp
  | some p =>
    simp only [Option.elim_some, get?_register, Option.some.injEq, exists_eq_left']
    split
    . next hgives => grind
    . next hgives => grind

theorem get?_ofItems_iff
    : (ofItems items).table.get? service = some token
        ↔
      Latest (Gives · service token) (fun item => ∃ other, Gives item service other) items := by
  induction items using List.reverseRecOn with
  | nil => exact iff_of_false (by simp [ofItems, ofPairs, empty]) not_latest_nil
  | append_singleton items item ih => rw [get?_ofItems_concat, latest_concat, ih]

theorem ofItems_of_pairs {pairs : List (String × String)} (hservices : ∀ p ∈ pairs, '=' ∉ p.1.toList)
    : ofItems (pairs.map fun p => p.1 ++ "=" ++ p.2) = ofPairs pairs := by
  have hcut : ∀ p ∈ pairs, Text.splitFirst? '=' (p.1 ++ "=" ++ p.2) = some p := by
    intro p hp
    exact splitFirst?_equals_iff.2 ⟨rfl, hservices p hp⟩
  rw [ofItems, List.filterMap_map]
  exact congrArg ofPairs ((List.filterMap_congr hcut).trans List.filterMap_some)

theorem last_item_decides (raw : String)
    : (∀ service token, (parse raw).verifies service token = true
          ↔
        ∃ before item after, Lists raw (before ++ item :: after)
          ∧ Gives item (Text.trim service) (Text.trim token)
          ∧ ∀ later ∈ after, ¬ ∃ other, Gives later (Text.trim service) other)
      ∧ (∀ service token, Text.trim service = "" ∨ Text.trim token = "" →
        (parse raw).verifies service token = false)
      ∧ ∀ pairs : List (String × String),
        (∀ p ∈ pairs, ',' ∉ p.1.toList ∧ '=' ∉ p.1.toList ∧ ',' ∉ p.2.toList) →
          parse (",".intercalate (pairs.map fun p => p.1 ++ "=" ++ p.2)) = ofPairs pairs := by
  have hverifies : ∀ service token, (parse raw).verifies service token = true
      ↔ Latest (Gives · (Text.trim service) (Text.trim token))
          (fun item => ∃ other, Gives item (Text.trim service) other) (Text.split ',' raw) := by
    intro service token
    rw [verifies_iff]
    exact get?_ofItems_iff
  refine ⟨?_, ?_, ?_⟩
  . intro service token
    simp only [hverifies, Latest, lists_iff]
  . intro service token hblank
    rw [Bool.eq_false_iff, Ne, hverifies]
    rintro ⟨_, _, _, _, ⟨_, _, _, _, _, _, hservice, htoken⟩, _⟩
    cases hblank with
    | inl h => exact hservice h
    | inr h => exact htoken h
  . intro pairs hpairs
    cases pairs with
    | nil => rfl
    | cons p pairs =>
      have hlists : Lists (",".intercalate ((p :: pairs).map fun p => p.1 ++ "=" ++ p.2))
          ((p :: pairs).map fun p => p.1 ++ "=" ++ p.2) := by
        refine ⟨by simp, rfl, ?_⟩
        rw [List.forall_mem_map]
        intro q hq
        have hcommas := hpairs q hq
        simp [hcommas.1, hcommas.2.2]
      have hservices : ∀ q ∈ p :: pairs, '=' ∉ q.1.toList := fun q hq => (hpairs q hq).2.1
      rw [parse_of_lists hlists, ofItems_of_pairs hservices]

theorem last_item_decides_of_overridden_service
    : let raw := " billing = t1 ,broken, =t2, billing=a=b , billing= "
      Lists raw ([" billing = t1 ", "broken", " =t2"] ++ " billing=a=b " :: [" billing= "])
        ∧ (parse raw).verifies "billing" " a=b" = true ∧ (parse raw).verifies "billing" "t1" = false
        ∧ (parse raw).verifies "billing" "\t" = false
        ∧ parse "billing=x=y,search= z" = ofPairs [("billing", "x=y"), ("search", " z")] := by
  intro raw
  have hlists : Lists raw ([" billing = t1 ", "broken", " =t2"] ++ " billing=a=b " :: [" billing= "]) :=
    lists_iff.2 (by decide)
  have hgives : Gives " billing=a=b " (Text.trim "billing") (Text.trim " a=b") :=
    ⟨" billing", "a=b ", by decide, by decide, by decide, by decide, by decide, by decide⟩
  have hlast : ¬ ∃ other, Gives " billing= " (Text.trim "billing") other := by
    rintro ⟨other, h⟩
    rcases gives_iff.1 h with ⟨p, hp, _, htoken, _, hne⟩
    have hcut : Text.splitFirst? '=' " billing= " = some (" billing", " ") := by decide
    have htrim : Text.trim " " = "" := by decide
    cases hp.symm.trans hcut
    exact hne (htoken.symm.trans htrim)
  rcases last_item_decides raw with ⟨hverifies, hblank, hpairs⟩
  have hlatest : (parse raw).verifies "billing" " a=b" = true :=
    (hverifies _ _).2 ⟨_, _, _, hlists, hgives, List.forall_mem_singleton.2 hlast⟩
  have hearlier : (parse raw).verifies "billing" "t1" = false := by
    rw [Bool.eq_false_iff, Ne, verifies_iff, verifies_iff.1 hlatest]
    decide
  exact ⟨hlists, hlatest, hearlier, hblank _ _ (.inr (by decide)),
    hpairs [("billing", "x=y"), ("search", " z")] (by decide)⟩

end ServiceTokens

end TenantAuth
