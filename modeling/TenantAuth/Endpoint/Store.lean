import TenantAuth.Endpoint.Listing
import TenantAuth.Instant
import TenantAuth.Table

/-!
This module contains the store of endpoint policies. Every change to a service's list gives it a new
version, which is later than the one before. The time at which a change is made is an argument. A removal
that finds nothing changes nothing (`remove_eq`).
-/

namespace TenantAuth

structure EndpointStore.Entry where
  version : Instant
  endpoints : List EndpointPolicy

structure EndpointStore where
  table : Table EndpointStore.Entry := .empty

inductive EndpointStore.Change where
  | upsert (policy : EndpointPolicy)
  | remove (service : String) (method : Method) (pattern : String)
  | replace (service : String) (policies : List EndpointPolicy)

namespace EndpointStore

def empty : EndpointStore := {}

instance : Inhabited EndpointStore := ⟨empty⟩

/--
The version after `last`: the time of the change, or one millisecond after `last` if that is later.
-/
def nextVersion (last now : Instant) : Instant :=
  if last.addMillis 1 ≤ now then now else last.addMillis 1

def entry (s : EndpointStore) (service : String) : Entry :=
  (s.table.get? service).getD ⟨.epoch, []⟩

def listing (s : EndpointStore) (service : String) : EndpointListing :=
  let name := Text.trim service
  match s.table.get? name with
  | some e => if name = "" then .empty name else ⟨name, e.version.text, e.endpoints⟩
  | none => .empty name

def write (s : EndpointStore) (now : Instant) (service : String) (endpoints : List EndpointPolicy) :
    String × EndpointStore :=
  let version := nextVersion (s.entry service).version now
  (version.text, ⟨s.table.insert service ⟨version, endpoints⟩⟩)

def put (p : EndpointPolicy) : List EndpointPolicy → List EndpointPolicy
  | [] => [p]
  | q :: qs => if q.sameEndpoint p then p :: qs else q :: put p qs

/--
Changes the policies of a service, which has an entry from then on. The change tells whether it has done
anything, and only then there is a new version.
-/
def mutate (s : EndpointStore) (now : Instant) (service : String)
    (change : List EndpointPolicy → List EndpointPolicy × Bool) : Option String × EndpointStore :=
  let entry := s.entry service
  match change entry.endpoints with
  | (endpoints, true) =>
    let (version, s) := s.write now service endpoints
    (some version, s)
  | (endpoints, false) => (none, ⟨s.table.insert service { entry with endpoints }⟩)

def upsert (s : EndpointStore) (now : Instant) (p : EndpointPolicy) : String × EndpointStore :=
  let (version, s) := s.mutate now p.service.text fun endpoints => (put p endpoints, true)
  (version.getD "", s)

def isFor (method : Method) (pattern : String) (p : EndpointPolicy) : Bool :=
  p.method == method && p.pattern.text == pattern

def remove (s : EndpointStore) (now : Instant) (service : String) (method : Method) (pattern : String) :
    Option String × EndpointStore :=
  let name := Text.trim service
  if name = "" then
    (none, s)
  else
    match s.table.get? name with
    | none => (none, s)
    | some _ =>
      s.mutate now name fun endpoints =>
        let kept := endpoints.filter fun p => !isFor method pattern p
        (kept, kept.length != endpoints.length)

def replace (s : EndpointStore) (now : Instant) (service : String) (policies : List EndpointPolicy) :
    String × EndpointStore :=
  let name := Text.trim service
  let (version, s) := s.mutate now name fun _ => (policies.filter fun p => p.service.text == name, true)
  (version.getD "", s)

def apply (s : EndpointStore) (now : Instant) : Change → Option String × EndpointStore
  | .upsert p =>
    let (version, s) := s.upsert now p
    (some version, s)
  | .remove service method pattern => s.remove now service method pattern
  | .replace service policies =>
    let (version, s) := s.replace now service policies
    (some version, s)

variable {s : EndpointStore} {now : Instant} {service pattern : String} {method : Method} {e : Entry}
  {endpoints : List EndpointPolicy} {change : List EndpointPolicy → List EndpointPolicy × Bool}

theorem entry_of_get? (h : s.table.get? service = some e) : s.entry service = e := by
  rw [entry, h, Option.getD_some]

theorem endpoints_entry_of_unknown (h : s.table.get? service = none) : (s.entry service).endpoints = [] := by
  rw [entry, h, Option.getD_none]

theorem mutate_of_changed (hchange : change (s.entry service).endpoints = (endpoints, true))
    : s.mutate now service change
        =
      (some (s.write now service endpoints).1, (s.write now service endpoints).2) := by
  unfold mutate
  simp only [hchange]

theorem mutate_of_unchanged (h : s.table.get? service = some e)
    (hchange : change e.endpoints = (e.endpoints, false))
    : s.mutate now service change = (none, s) := by
  unfold mutate
  rw [entry_of_get? h]
  simp only [hchange]
  rw [Table.insert_of_get? h]

theorem length_kept_ne_iff
    : (endpoints.filter fun p => !isFor method pattern p).length ≠ endpoints.length
        ↔
      ∃ p ∈ endpoints, isFor method pattern p = true := by
  rw [Ne, List.length_filter_eq_length_iff]
  simp

theorem remove_of_unknown (h : s.table.get? (Text.trim service) = none)
    : s.remove now service method pattern = (none, s) := by
  simp only [remove, h, ite_self]

theorem remove_of_known (hname : Text.trim service ≠ "") (h : s.table.get? (Text.trim service) = some e)
    : s.remove now service method pattern
        =
      s.mutate now (Text.trim service) fun endpoints =>
        let kept := endpoints.filter fun p => !isFor method pattern p
        (kept, kept.length != endpoints.length) := by
  simp only [remove, if_neg hname, h]

theorem remove_eq
    : s.remove now service method pattern
        =
      let name := Text.trim service
      let endpoints := (s.entry name).endpoints
      if name ≠ "" ∧ ∃ p ∈ endpoints, isFor method pattern p = true then
        (some (s.write now name (endpoints.filter fun p => !isFor method pattern p)).1,
          (s.write now name (endpoints.filter fun p => !isFor method pattern p)).2)
      else
        (none, s) := by
  dsimp only
  by_cases hname : Text.trim service = ""
  . rw [if_neg fun h => h.1 hname, remove, if_pos hname]
  . cases hget : s.table.get? (Text.trim service) with
    | none =>
      rw [remove_of_unknown hget, endpoints_entry_of_unknown hget, if_neg]
      rintro ⟨_, p, hp, _⟩
      cases hp
    | some e =>
      have hentry := entry_of_get? hget
      rw [remove_of_known hname hget, hentry]
      by_cases hsome : ∃ p ∈ e.endpoints, isFor method pattern p = true
      . rw [if_pos ⟨hname, hsome⟩]
        apply mutate_of_changed
        dsimp only
        rw [hentry, bne_iff_ne.2 (length_kept_ne_iff.2 hsome)]
      . have hlength : (e.endpoints.filter fun p => !isFor method pattern p).length = e.endpoints.length :=
          Decidable.not_not.1 fun hne => hsome (length_kept_ne_iff.1 hne)
        rw [if_neg fun h => hsome h.2]
        apply mutate_of_unchanged hget
        dsimp only
        rw [hlength, bne_self_eq_false, List.filter_sublist.eq_of_length hlength]

end EndpointStore

end TenantAuth
