import TenantAuth.Table
import TenantAuth.Text.Blank
import TenantAuth.Text.Split
import TenantAuth.Text.Quoted

/-!
This module contains the table of the tokens with which calling services prove who they are.
-/

namespace TenantAuth

structure ServiceTokens where
  table : Table String := .empty

namespace ServiceTokens

def empty : ServiceTokens := {}

instance : Inhabited ServiceTokens := ⟨empty⟩

def register (t : ServiceTokens) (service token : String) : ServiceTokens :=
  match Text.normalize? service, Text.normalize? token with
  | some service, some token => ⟨t.table.insert service token⟩
  | _, _ => t

def ofPairs (pairs : List (String × String)) : ServiceTokens :=
  pairs.foldl (fun t p => t.register p.1 p.2) empty

/--
Reads items of the form `service=token` with commas between them. An item without an equals sign is
ignored; further ones belong to the token.
-/
def parse (raw : String) : ServiceTokens :=
  ofPairs ((Text.split ',' raw).filterMap (Text.splitFirst? '='))

def ofEnvironment (env : String → Option String) : ServiceTokens :=
  ((env "AUTHHUB_SERVICE_TOKENS").map parse).getD empty

def isEmpty (t : ServiceTokens) : Bool :=
  t.table.isEmpty

/--
Whether two lists of bytes are equal. If their lengths are, every pair of bytes is compared, also after a
difference, so that the time this takes does not tell where the first one is.
-/
def sameBytes (a b : List UInt8) : Bool :=
  a.length == b.length && (a.zipWith (fun x y => x == y) b).foldl and true

def verifies (t : ServiceTokens) (service token : String) : Bool :=
  (t.table.get? (Text.trim service)).any fun expected =>
    sameBytes expected.toUTF8.data.toList (Text.trim token).toUTF8.data.toList

def services (t : ServiceTokens) : List String :=
  t.table.keys.mergeSort fun a b => a ≤ b

def describe (t : ServiceTokens) : String :=
  "StaticServiceTokens \x7b services: [" ++ ", ".intercalate (t.services.map Text.quoted) ++ "] \x7d"

theorem foldl_and_eq_true_iff {bs : List Bool} {b : Bool}
    : bs.foldl and b = true ↔ b = true ∧ ∀ x ∈ bs, x = true := by
  induction bs generalizing b with
  | nil => simp
  | cons x bs ih => simp [ih, and_assoc]

theorem sameBytes_iff {a b : List UInt8} : sameBytes a b = true ↔ a = b := by
  rw [sameBytes, Bool.and_eq_true, beq_iff_eq, foldl_and_eq_true_iff]
  induction a generalizing b with
  | nil => simp [eq_comm]
  | cons x a ih =>
    cases b with
    | nil => simp
    | cons y b =>
      simp only [true_and] at ih
      simp only [List.length_cons, Nat.add_right_cancel_iff, List.zipWith_cons_cons, List.forall_mem_cons,
        beq_iff_eq, true_and, List.cons.injEq, ← ih]
      exact and_left_comm

theorem verifies_iff {t : ServiceTokens} {service token : String}
    : t.verifies service token = true ↔ t.table.get? (Text.trim service) = some (Text.trim token) := by
  have hbytes : ∀ a b : String, sameBytes a.toUTF8.data.toList b.toUTF8.data.toList = true ↔ a = b := by
    intro a b
    rw [sameBytes_iff, Array.toList_inj, ← ByteArray.ext_iff]
    exact String.toByteArray_inj
  simp only [verifies, Option.any_eq_true, hbytes, exists_eq_right]

end ServiceTokens

end TenantAuth
