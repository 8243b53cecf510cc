import TenantAuth.Http.Service
import TenantAuth.Proofs.Endpoint.Publication
import TenantAuth.Proofs.Endpoint.Versions
import TenantAuth.Proofs.Http.Headers

/-!
This module contains the protocol between the service that publishes endpoint policies and a consumer that
keeps a copy of one list. The main statement is that the copy is the current list after every poll
(`Subscription.poll_coherent`).
-/

namespace TenantAuth

def sentVersion (quoted : Bool) (version : String) : String :=
  if quoted then "\"" ++ version ++ "\"" else version

section

open Instant (IsPlain)

variable {quoted : Bool} {version : String}

theorem Instant.IsPlain.isBlank_eq_false {c : Char} (h : IsPlain c) : Text.isBlank c = false := by
  unfold IsPlain at h
  simp only [Text.isBlank, Bool.or_eq_false_iff, Bool.and_eq_false_iff, decide_eq_false_iff_not,
    beq_eq_false_iff_ne]
  omega

theorem Instant.IsPlain.ne_quote {c : Char} (h : IsPlain c) : (c == '"') = false := by
  rw [beq_eq_false_iff_ne]
  rintro rfl
  exact absurd h (by decide)

theorem toList_sentVersion
    : (sentVersion quoted version).toList
        =
      (if quoted then ['"'] else []) ++ version.toList ++ (if quoted then ['"'] else []) := by
  unfold sentVersion
  cases quoted with
  | true => simp
  | false => simp

theorem mem_sentVersion (h : ∀ c ∈ version.toList, IsPlain c) {c : Char}
    (hc : c ∈ (sentVersion quoted version).toList) : c = '"' ∨ IsPlain c := by
  rw [toList_sentVersion, List.mem_append, List.mem_append] at hc
  have hquote : ∀ c ∈ (if quoted then ['"'] else []), c = '"' := by
    cases quoted with
    | true => simp
    | false => simp
  rcases hc with (hc | hc) | hc
  . exact .inl (hquote c hc)
  . exact .inr (h c hc)
  . exact .inl (hquote c hc)

theorem text?_sentVersion (h : ∀ c ∈ version.toList, IsPlain c)
    : (HeaderValue.ofText (sentVersion quoted version)).text? = some (sentVersion quoted version) := by
  apply HeaderValue.text?_ofText
  intro c hc
  rcases mem_sentVersion h hc with rfl | hc
  . decide
  . exact .inl ⟨Nat.le_trans (by decide) (Nat.le_of_lt hc.1), hc.2⟩

theorem trim_sentVersion (h : ∀ c ∈ version.toList, IsPlain c)
    : Text.trim (sentVersion quoted version) = sentVersion quoted version := by
  apply Text.trim_eq_self_of_forall
  intro c hc
  rcases mem_sentVersion h hc with rfl | hc
  . decide
  . exact hc.isBlank_eq_false

theorem dropWhile_quote {quotes cs : List Char} (hquotes : ∀ c ∈ quotes, (c == '"') = true)
    (hcs : ∀ c, cs.head? = some c → (c == '"') = false) : (quotes ++ cs).dropWhile (· == '"') = cs := by
  rw [List.dropWhile_append_of_pos hquotes, Text.dropWhile_eq_self_of_head? hcs]

theorem unquote_sentVersion (h : ∀ c ∈ version.toList, IsPlain c)
    : unquote (sentVersion quoted version) = version := by
  have hquote : ∀ c ∈ (if quoted then ['"'] else []), (c == '"') = true := by
    cases quoted with
    | true => simp
    | false => simp
  by_cases hempty : version = ""
  . subst hempty
    cases quoted with
    | true => rfl
    | false => rfl
  . have hplain : ∀ c ∈ version.toList, (c == '"') = false := fun c hc => (h c hc).ne_quote
    have hne : version.toList ≠ [] := fun h => hempty (String.toList_eq_nil_iff.1 h)
    have hfront : (sentVersion quoted version).toList.dropWhile (· == '"')
        = version.toList ++ (if quoted then ['"'] else []) := by
      rw [toList_sentVersion, List.append_assoc]
      apply dropWhile_quote hquote
      intro c hc
      rw [List.head?_append, Option.or_of_isSome (List.isSome_head?.2 hne)] at hc
      exact hplain c (List.mem_of_head? hc)
    have hback : (version.toList ++ (if quoted then ['"'] else [])).reverse.dropWhile (· == '"')
        = version.toList.reverse := by
      rw [List.reverse_append]
      apply dropWhile_quote
      . intro c hc
        exact hquote c (List.mem_reverse.1 hc)
      . intro c hc
        exact hplain c (List.mem_reverse.1 (List.mem_of_head? hc))
    rw [unquote, hfront, hback, List.reverse_reverse, String.ofList_toList]

theorem unquote_trim_sentVersion (h : ∀ c ∈ version.toList, IsPlain c)
    : unquote (Text.trim (sentVersion quoted version)) = version := by
  rw [trim_sentVersion h, unquote_sentVersion h]

end

theorem Response.lookup_withHeader (r : Response) (name value : String)
    : (r.withHeader name value).headers.lookup name = some value := by
  have hothers : (r.headers.filter fun h => h.1 != name).lookup name = none := by
    rw [List.lookup_eq_none_iff]
    intro h hmem
    exact bne_iff_ne.2 (bne_iff_ne.1 (List.mem_filter.1 hmem).2).symm
  rw [withHeader, List.lookup_append, hothers, Option.none_or, List.lookup_cons_self]

/--
A consumer of a service's policies: the version that came with the last list it was sent, and its copy of
that list.
-/
structure Consumer where
  version : Option String := none
  copy : Option EndpointListing := none
deriving DecidableEq

namespace Consumer

def holding (l : EndpointListing) : Consumer :=
  ⟨some l.version, some l⟩

def condition (c : Consumer) (quoted : Bool) (h : Headers) : Headers :=
  let others := h.entries.filter fun e => e.1 != "if-none-match"
  match c.version with
  | none => ⟨others⟩
  | some version => ⟨("if-none-match", .ofText (sentVersion quoted version)) :: others⟩

def receive (c : Consumer) (r : Response) : Consumer :=
  if r.status = 200 then
    { version := r.headers.lookup "x-policy-version"
      copy := match r.body with
        | .json j => (EndpointListing.ofJson j).toOption
        | _ => none }
  else
    c

variable {c : Consumer} {quoted : Bool} {h : Headers} {version : String}

theorem holdsVersion_condition_of_none (hnone : c.version = none)
    : holdsVersion (c.condition quoted h) version = false := by
  have hothers : ∀ e ∈ h.entries.filter (fun e => e.1 != "if-none-match"), e.1 ≠ "if-none-match" := by
    intro e he
    exact bne_iff_ne.1 (List.mem_filter.1 he).2
  simp only [holdsVersion, condition, hnone, Headers.text?_eq_none hothers, Option.any_none]

theorem holdsVersion_condition_of_some {held : String} (hsome : c.version = some held)
    (hplain : ∀ c ∈ held.toList, Instant.IsPlain c)
    : holdsVersion (c.condition quoted h) version = (held == version) := by
  simp only [holdsVersion, condition, hsome, Headers.text?_cons_self, text?_sentVersion hplain, Option.any_some,
    unquote_trim_sentVersion hplain]

theorem receive_sent (c : Consumer) (l : EndpointListing)
    : c.receive ((Response.ofJson l.toJson).withHeader "x-policy-version" l.version) = .holding l := by
  have hstatus : ((Response.ofJson l.toJson).withHeader "x-policy-version" l.version).status = 200 := rfl
  have hbody : ((Response.ofJson l.toJson).withHeader "x-policy-version" l.version).body = .json l.toJson := rfl
  rw [receive, if_pos hstatus, Response.lookup_withHeader, hbody]
  dsimp only
  rw [EndpointListing.ofJson_toJson]
  rfl

end Consumer

inductive Exchange where
  | change (now : Instant) (change : EndpointStore.Change)
  | poll (quoted : Bool) (bindings : Bindings) (request : Request)

structure Subscription where
  store : EndpointStore
  consumer : Consumer := {}

namespace Subscription

def answer (s : Subscription) (service : String) (quoted : Bool) (bindings : Bindings) (request : Request) :
    Response :=
  Id.run <| publish s.store service bindings
    { request with headers := s.consumer.condition quoted request.headers }

def step (service : String) (s : Subscription) : Exchange → Subscription
  | .change now change => { s with store := (s.store.apply now change).2 }
  | .poll quoted bindings request =>
    { s with consumer := s.consumer.receive (s.answer service quoted bindings request) }

def run (service : String) (s : Subscription) (exchanges : List Exchange) : Subscription :=
  exchanges.foldl (step service) s

/--
The consumer has been sent nothing yet, or a list that the store has published before.
-/
def Tracks (service : String) (s : Subscription) : Prop :=
  s.consumer = {}
    ∨ ∃ (earlier : EndpointStore) (changes : List (Instant × EndpointStore.Change)),
        s.store = earlier.run changes ∧ s.consumer = .holding (earlier.listing service)

variable {s : Subscription} {service : String} {quoted : Bool} {bindings : Bindings} {request : Request}

theorem holdsVersion_iff (hs : s.Tracks service)
    : holdsVersion (s.consumer.condition quoted request.headers) (s.store.listing service).version = true
        ↔
      s.consumer.copy = some (s.store.listing service) := by
  rcases hs with hnew | ⟨earlier, changes, hstore, hconsumer⟩
  . rw [hnew, Consumer.holdsVersion_condition_of_none rfl]
    simp
  . rw [hstore, hconsumer, Consumer.holdsVersion_condition_of_some rfl (earlier.isPlain_version service),
      beq_iff_eq, Consumer.holding, Option.some.injEq]
    constructor
    . intro hversion
      -- Versions grow with every write, so an old version that is still current stands for the same list.
      exact (EndpointStore.listing_eq_of_version_eq hversion.symm).symm
    . intro hlisting
      rw [hlisting]

theorem answer_of_holdsVersion
    (h : holdsVersion (s.consumer.condition quoted request.headers) (s.store.listing service).version = true)
    : s.answer service quoted bindings request
        =
      Response.withHeader { status := 304 } "x-policy-version" (s.store.listing service).version := by
  simp only [answer, publish, h, if_true, Id.run_pure]

theorem answer_of_not_holdsVersion
    (h : ¬ holdsVersion (s.consumer.condition quoted request.headers) (s.store.listing service).version = true)
    : s.answer service quoted bindings request
        =
      (Response.ofJson (s.store.listing service).toJson).withHeader "x-policy-version"
        (s.store.listing service).version := by
  simp only [answer, publish, h, if_false, Bool.false_eq_true, Id.run_pure]

theorem status_answer (hs : s.Tracks service)
    : (s.answer service quoted bindings request).status
        =
      if s.consumer.copy = some (s.store.listing service) then 304 else 200 := by
  split
  . next hcopy =>
    rw [answer_of_holdsVersion ((holdsVersion_iff hs).2 hcopy)]
    rfl
  . next hcopy =>
    rw [answer_of_not_holdsVersion fun h => hcopy ((holdsVersion_iff hs).1 h)]
    rfl

theorem receive_answer (hs : s.Tracks service)
    : s.consumer.receive (s.answer service quoted bindings request) = .holding (s.store.listing service) := by
  by_cases h : holdsVersion (s.consumer.condition quoted request.headers) (s.store.listing service).version
  . have hcopy := (holdsVersion_iff hs).1 h
    rw [answer_of_holdsVersion h]
    rcases hs with hnew | ⟨earlier, changes, _, hconsumer⟩
    . rw [hnew] at hcopy
      cases hcopy
    . rw [hconsumer] at hcopy ⊢
      rw [← Option.some.inj hcopy]
      rfl
  . rw [answer_of_not_holdsVersion h, Consumer.receive_sent]

theorem tracks_step (hs : s.Tracks service) (e : Exchange) : (s.step service e).Tracks service := by
  cases e with
  | change now change =>
    rcases hs with hnew | ⟨earlier, changes, hstore, hconsumer⟩
    . exact .inl hnew
    . refine .inr ⟨earlier, changes ++ [(now, change)], ?_, hconsumer⟩
      rw [step, hstore, EndpointStore.run, EndpointStore.run, List.foldl_append]
      rfl
  | poll quoted bindings request => exact .inr ⟨s.store, [], rfl, receive_answer hs⟩

theorem tracks_run (hs : s.Tracks service) (exchanges : List Exchange)
    : (s.run service exchanges).Tracks service := by
  induction exchanges generalizing s with
  | nil => exact hs
  | cons e exchanges ih =>
    rw [run, List.foldl_cons]
    exact ih (tracks_step hs e)

theorem poll_coherent (store : EndpointStore) (service : String) (exchanges : List Exchange) (quoted : Bool)
    (bindings : Bindings) (request : Request)
    : let before := run service { store } exchanges
      let after := before.step service (.poll quoted bindings request)
      after.store = before.store
        ∧ after.consumer.copy = some (after.store.listing service)
        ∧ (before.answer service quoted bindings request).status
            = if before.consumer.copy = some (before.store.listing service) then 304 else 200 := by
  intro before after
  have htracks : before.Tracks service := tracks_run (.inl rfl) exchanges
  refine ⟨rfl, ?_, status_answer htracks⟩
  exact congrArg Consumer.copy (receive_answer htracks)

theorem poll_coherent_of_unknown_service
    : let policy : EndpointPolicy := {
        method := .get
        pattern := ⟨"/users/*", [.literal "users", .single], by decide, rfl⟩
        service := ⟨"directory", by decide, by decide⟩
        isPublic := true
      }
      let request : Request := { method := "GET", path := "/internal/endpoint-policies/directory", headers := {} }
      let poll : Exchange := .poll true .outside request
      let change : Exchange := .change .epoch (.upsert policy)
      let first := run "directory" { store := .empty } [poll]
      let changed := run "directory" { store := .empty } [poll, change]
      let last := run "directory" { store := .empty } [poll, change, poll]
      first.consumer.copy = some (.empty "directory")
        ∧ (first.answer "directory" true .outside request).status = 304
        ∧ (changed.answer "directory" true .outside request).status = 200
        ∧ last.consumer.copy.map EndpointListing.endpoints = some [policy] := by
  intro policy request poll change first changed last
  have hfirst := poll_coherent .empty "directory" [] true .outside request
  have hsecond := poll_coherent .empty "directory" [poll] true .outside request
  have hlast := poll_coherent .empty "directory" [poll, change] true .outside request
  have hne : changed.consumer.copy ≠ some (changed.store.listing "directory") := by
    intro heq
    have hempty : some (EndpointListing.empty "directory") = some (changed.store.listing "directory") :=
      hfirst.2.1.symm.trans heq
    exact absurd (congrArg (Option.map EndpointListing.endpoints) hempty) (by decide)
  refine ⟨hfirst.2.1, ?_, ?_, ?_⟩
  . exact hsecond.2.2.trans (if_pos hfirst.2.1)
  . exact hlast.2.2.trans (if_neg hne)
  . exact congrArg (Option.map EndpointListing.endpoints) hlast.2.1

end Subscription

end TenantAuth
