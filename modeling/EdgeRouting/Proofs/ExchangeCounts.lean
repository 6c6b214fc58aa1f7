import Mathlib.Algebra.BigOperators.Finprod
import EdgeRouting.Emulator
import EdgeRouting.Proofs.HookCounts

/-!
# What an emulator counts

A viewer's request is answered at the edge, or it cannot be sent, or the origin is asked once and
replies or does not. `Emulator.Exchanged` lists these with their events. The accounts of a run are
what this list says of each request, added up.
-/

namespace EdgeRouting

namespace Event

noncomputable def originTotal (events : List Event) : Nat :=
  ∑ᶠ status, total (.originRequests status) events

theorem eq_of_amount_originRequests_ne_zero {event : Event} {status other : Nat}
    (h : event.amount (.originRequests status) ≠ 0)
    (hother : event.amount (.originRequests other) ≠ 0) : status = other := by
  cases event with
  | notice note => exact absurd rfl h
  | count counter n =>
    have hcounted : counter = .originRequests status := by
      by_contra hne
      exact h (if_neg hne)
    have hagain : counter = .originRequests other := by
      by_contra hne
      exact hother (if_neg hne)
    rw [hcounted] at hagain
    cases hagain
    rfl

theorem finite_support_originRequests (events : List Event) :
    (Function.support fun status => total (.originRequests status) events).Finite := by
  induction events with
  | nil => simp [Function.support]
  | cons event events ih =>
    have hevent :
        (Function.support fun status => event.amount (.originRequests status)).Subsingleton :=
      fun _ hstatus _ hother => eq_of_amount_originRequests_ne_zero hstatus hother
    exact (hevent.finite.union ih).subset (Function.support_add _ _)

@[simp]
theorem originTotal_append (events later : List Event) :
    originTotal (events ++ later) = originTotal events + originTotal later := by
  simp only [originTotal, total_append]
  exact finsum_add_distrib (finite_support_originRequests events)
    (finite_support_originRequests later)

theorem originTotal_eq_zero {events : List Event}
    (h : ∀ status, total (.originRequests status) events = 0) : originTotal events = 0 := by
  simp [originTotal, h]

@[simp]
theorem originTotal_nil : originTotal [] = 0 :=
  originTotal_eq_zero fun _ => rfl

@[simp]
theorem originTotal_cons_notice (note : Notice) (events : List Event) :
    originTotal (.notice note :: events) = originTotal events := by
  simp [originTotal]

@[simp]
theorem originTotal_cons_originRequests (status n : Nat) (events : List Event) :
    originTotal (.count (.originRequests status) n :: events) = n + originTotal events := by
  have hone : originTotal [.count (.originRequests status) n] = n := by
    rw [originTotal, finsum_eq_single _ status]
    · simp
    · intro other hother
      simp [hother.symm]
  rw [← List.singleton_append, originTotal_append, hone]

end Event

structure Visit where
  origin : Origin
  request : Request

namespace Emulator

def exchange (e : Emulator) (visit : Visit) : Exchange :=
  e.handle visit.origin visit.request

/-- The origin has been asked and has replied. -/
def replied (e : Emulator) (visit : Visit) : Bool :=
  (e.exchange visit).sent.any fun sent => (visit.origin sent).isSome

def rulesFor (e : Emulator) (visit : Visit) : Nat :=
  e.bundle.response.rules.countP (·.glob.isMatch visit.request.uri.path)

variable (e : Emulator) (visit : Visit)

def hookEvents : List Event :=
  (e.bundle.request.handle visit.request).2

inductive Exchanged : Exchange → Prop
  | answered {response : Response} {note : Notice}
      (answer : e.bundle.request.answer? visit.request = some response) :
      Exchanged ⟨response, [], e.hookEvents visit ++ [.notice note]⟩
  | unsent {forwarding failure : Notice}
      (unanswered : e.bundle.request.answer? visit.request = none) :
      Exchanged ⟨notBuilt, [],
        e.hookEvents visit ++
          [.notice forwarding, .notice failure, .count (.handlerFaults .origin) 1]⟩
  | lost {sent : Request} {forwarding failure : Notice}
      (unanswered : e.bundle.request.answer? visit.request = none)
      (silent : visit.origin sent = none) :
      Exchanged ⟨unreachable, [sent], e.hookEvents visit ++
        [.notice forwarding, .notice failure, .count (.originRequests unreachable.status.code) 1]⟩
  | completed {sent : Request} {reply : Response} {forwarding : Notice}
      (unanswered : e.bundle.request.answer? visit.request = none)
      (replies : visit.origin sent = some reply) :
      Exchanged ⟨(e.bundle.response.inject visit.request.uri.path reply).1, [sent],
        e.hookEvents visit ++
        ([.notice forwarding, .count (.originRequests reply.status.code) 1] ++
          (e.bundle.response.inject visit.request.uri.path reply).2)⟩

variable {e visit}

theorem exchange_of_respond {response : Response}
    (h : (e.bundle.request.handle visit.request).1 = .respond response) :
    e.exchange visit = ⟨response, [], e.hookEvents visit ++
      [.notice (.answeredAtEdge (requestIdText visit.request) visit.request.uri.path
        response.status.text)]⟩ := by
  simp only [exchange, handle, h]
  rfl

theorem exchange_of_forward {forwarded : Request}
    (h : (e.bundle.request.handle visit.request).1 = .forward forwarded) :
    e.exchange visit =
      { e.forward visit.origin visit.request.uri.path forwarded with
        events := e.hookEvents visit ++
          (e.forward visit.origin visit.request.uri.path forwarded).events } := by
  simp only [exchange, handle, h]
  rfl

theorem exchanged (e : Emulator) (visit : Visit) : e.Exchanged visit (e.exchange visit) := by
  cases houtcome : (e.bundle.request.handle visit.request).1 with
  | respond response =>
    rw [exchange_of_respond houtcome]
    exact .answered (RequestHook.outcome_eq_respond_iff.1 houtcome)
  | forward forwarded =>
    have hunanswered := RequestHook.answer?_eq_none_of_outcome houtcome
    rw [exchange_of_forward houtcome, forward]
    cases e.originRequest? forwarded with
    | none => exact .unsent hunanswered
    | some sent =>
      dsimp only
      cases hreply : visit.origin sent with
      | none => exact .lost hunanswered hreply
      | some reply => exact .completed hunanswered hreply

theorem length_sent_le_one (e : Emulator) (visit : Visit) : (e.exchange visit).sent.length ≤ 1 := by
  have hexchanged := e.exchanged visit
  generalize e.exchange visit = result at hexchanged
  cases hexchanged with
  | answered | unsent => exact Nat.zero_le 1
  | lost | completed => exact Nat.le_refl 1

theorem sent_forward (e : Emulator) (origin : Origin) (viewerPath : String) (forwarded : Request) :
    (e.forward origin viewerPath forwarded).sent = (e.originRequest? forwarded).toList := by
  rw [forward]
  cases e.originRequest? forwarded with
  | none => rfl
  | some sent =>
    dsimp only
    cases origin sent <;> rfl

theorem forward_congr {origin other : Origin} {viewerPath : String} {forwarded : Request}
    (h : ∀ sent ∈ e.originRequest? forwarded, origin sent = other sent) :
    e.forward origin viewerPath forwarded = e.forward other viewerPath forwarded := by
  rw [forward, forward]
  cases hbuilt : e.originRequest? forwarded with
  | none => rfl
  | some sent =>
    dsimp only
    rw [h sent hbuilt]

/-- The origin matters for the one request that is sent, if any. -/
theorem exchange_congr {origin : Origin}
    (h : ∀ sent ∈ (e.exchange visit).sent, origin sent = visit.origin sent) :
    e.exchange { visit with origin } = e.exchange visit := by
  cases houtcome : (e.bundle.request.handle visit.request).1 with
  | respond response =>
    rw [exchange_of_respond houtcome]
    exact exchange_of_respond houtcome
  | forward forwarded =>
    rw [exchange_of_forward houtcome] at h ⊢
    simp only [sent_forward, Option.mem_toList] at h
    rw [← forward_congr h]
    exact exchange_of_forward houtcome

/-- The counters after some requests are what becomes of these. -/
structure Accounts (e : Emulator) (visits : List Visit) (events : List Event) : Prop where
  redirects : Event.total .redirects events =
    visits.countP fun visit => (e.bundle.request.answer? visit.request).isSome
  contacts : Event.originTotal events = (visits.map fun visit => (e.exchange visit).sent.length).sum
  everyRequest : Event.total .redirects events + Event.originTotal events +
    Event.total (.handlerFaults .origin) events = visits.length
  faults : Event.total (.handlerFaults .request) events =
    visits.countP fun visit => e.bundle.request.unbuilt visit.request
  headerRules : Event.total .headerRulesApplied events =
    ((visits.filter e.replied).map e.rulesFor).sum

theorem accounts_nil (e : Emulator) : e.Accounts [] [] where
  redirects := rfl
  contacts := Event.originTotal_nil
  everyRequest := by
    rw [Event.originTotal_nil]
    rfl
  faults := rfl
  headerRules := rfl

theorem Accounts.append {visits later : List Visit} {events laterEvents : List Event}
    (h : e.Accounts visits events) (hlater : e.Accounts later laterEvents) :
    e.Accounts (visits ++ later) (events ++ laterEvents) where
  redirects := by rw [Event.total_append, List.countP_append, h.redirects, hlater.redirects]
  contacts := by
    rw [Event.originTotal_append, List.map_append, List.sum_append, h.contacts, hlater.contacts]
  everyRequest := by
    have hfirst := h.everyRequest
    have hsecond := hlater.everyRequest
    rw [Event.total_append, Event.total_append, Event.originTotal_append, List.length_append]
    omega
  faults := by rw [Event.total_append, List.countP_append, h.faults, hlater.faults]
  headerRules := by
    rw [Event.total_append, List.filter_append, List.map_append, List.sum_append, h.headerRules,
      hlater.headerRules]

theorem total_hookEvents (e : Emulator) (visit : Visit) (counter : Counter) :
    Event.total counter (e.hookEvents visit) =
      (if (e.bundle.request.answer? visit.request).isSome ∧ counter = .redirects then 1 else 0) +
      (if (e.bundle.request.rewrite? visit.request).isSome ∧ counter = .rewrites then 1 else 0) +
      (if e.bundle.request.unbuilt visit.request ∧
        counter = .handlerFaults .request then 1 else 0) :=
  RequestHook.total_handle _ _ _

theorem originTotal_hookEvents (e : Emulator) (visit : Visit) :
    Event.originTotal (e.hookEvents visit) = 0 := by
  apply Event.originTotal_eq_zero
  intro status
  rw [total_hookEvents]
  simp

theorem total_inject (hook : ResponseHook) (path : String) (reply : Response) (counter : Counter) :
    Event.total counter (hook.inject path reply).2 =
      if counter = .headerRulesApplied then hook.rules.countP (·.glob.isMatch path) else 0 := by
  rw [List.countP_eq_length_filter, ← HeaderRule.matching, ResponseHook.inject]
  by_cases hnone : (HeaderRule.matching hook.rules path).length = 0
  · simp [hnone]
  · simp [hnone, eq_comm]

theorem originTotal_inject (hook : ResponseHook) (path : String) (reply : Response) :
    Event.originTotal (hook.inject path reply).2 = 0 := by
  apply Event.originTotal_eq_zero
  intro status
  rw [total_inject]
  rfl

theorem accounts_exchange (e : Emulator) (visit : Visit) :
    e.Accounts [visit] (e.exchange visit).events := by
  have hexchanged := e.exchanged visit
  -- The accounts look at the exchange as well as at its events, so what it is stays known in each
  -- case.
  generalize hresult : e.exchange visit = result at hexchanged
  cases hexchanged with
  | answered hanswer =>
    constructor <;> simp [total_hookEvents, originTotal_hookEvents, replied, hresult, hanswer]
  | unsent hunanswered =>
    have hfault : Event.originTotal [.count (.handlerFaults .origin) 1] = 0 :=
      Event.originTotal_eq_zero fun _ => rfl
    constructor <;>
      simp [total_hookEvents, originTotal_hookEvents, replied, hresult, hunanswered, hfault]
  | lost hunanswered hsilent =>
    constructor <;>
      simp [total_hookEvents, originTotal_hookEvents, replied, hresult, hunanswered, hsilent]
  | completed hunanswered hreplies =>
    constructor <;>
      simp [total_hookEvents, originTotal_hookEvents, total_inject, originTotal_inject, replied,
        rulesFor, hresult, hunanswered, hreplies]

def run (e : Emulator) (visits : List Visit) : List Event :=
  visits.flatMap fun visit => (e.exchange visit).events

theorem accounts_run (e : Emulator) (visits : List Visit) : e.Accounts visits (e.run visits) := by
  induction visits with
  | nil => exact e.accounts_nil
  | cons visit visits ih => exact (e.accounts_exchange visit).append ih

/-- Every request of a run is accounted for once: as a redirect that the edge answers and the origin
does not see, as a request that is sent to the origin, or as one that cannot be sent. -/
theorem run_accounted (e : Emulator) (visits : List Visit) :
    e.Accounts visits (e.run visits) ∧
    ∀ visit ∈ visits,
      (∀ response, (e.bundle.request.handle visit.request).1 = .respond response ↔
        e.bundle.request.answer? visit.request = some response) ∧
      (∀ response, e.bundle.request.answer? visit.request = some response →
        response.status = .movedPermanently ∧ (e.exchange visit).response = response ∧
          (e.exchange visit).sent = []) ∧
      (e.exchange visit).sent.length ≤ 1 ∧
      (∀ origin : Origin, (∀ sent ∈ (e.exchange visit).sent, origin sent = visit.origin sent) →
        e.exchange { visit with origin } = e.exchange visit) ∧
      (e.bundle.request.unbuilt visit.request →
        (e.bundle.request.handle visit.request).1 = .forward visit.request) := by
  refine ⟨e.accounts_run visits, fun visit _ => ⟨fun _ => RequestHook.outcome_eq_respond_iff, ?_,
    length_sent_le_one e visit, fun _ => exchange_congr, RequestHook.outcome_of_unbuilt⟩⟩
  intro response hanswer
  rw [exchange_of_respond (RequestHook.outcome_eq_respond_iff.2 hanswer)]
  exact ⟨RequestHook.status_of_answer? hanswer, rfl, rfl⟩

/-- A redirect, a redirect without a host that the origin replies to, a request that it does not
reply to, and an authority alone, for which neither the index document nor a request to the origin
can be built. -/
theorem run_accounted_mixed : ∃ (e : Emulator) (visits : List Visit),
    e.bundle.request.redirects.map (fun rule => (rule.source, rule.destination)) =
      [("/old", "/new")] ∧
    visits.map (·.request.uri.text) = ["/old", "/old", "/a.html", "example.com:443"] ∧
    Event.total .redirects (e.run visits) = 1 ∧ Event.originTotal (e.run visits) = 2 ∧
    Event.total (.handlerFaults .origin) (e.run visits) = 1 ∧
    Event.total (.handlerFaults .request) (e.run visits) = 2 ∧
    Event.total .headerRulesApplied (e.run visits) = 1 := by
  let rule : Rule := {
    source := "/old"
    destination := "/new"
    expression := [.literal "/old".toList]
    captureOrder := []
    template := [.literal "/new"] }
  let stamp : HeaderRule :=
    ⟨⟨"/*", [.literal "/".toList, .withinSegment]⟩, ⟨"x-edge", by decide +kernel⟩, "1",
      by decide +kernel⟩
  let e : Emulator := {
    bundle := {
      version := 1
      request := { redirects := [rule] }
      response := { rules := [stamp] }
      cachePolicy := { headers := .none, cookies := .none, queryStrings := .none } }
    origin := ⟨"127.0.0.1:3000", by decide⟩ }
  let host := HeaderMap.empty.append .host ⟨Utf8.encode "example.com", by decide +kernel⟩
  let request (authority : Option Authority) (path : String) (headers : HeaderMap) : Request :=
    ⟨⟨"GET", by decide⟩, ⟨none, authority, path, none⟩, headers, [], none⟩
  let replying : Origin := fun _ => some ⟨⟨200⟩, .empty, []⟩
  let visits : List Visit := [
    ⟨replying, request none "/old" host⟩,
    ⟨replying, request none "/old" .empty⟩,
    ⟨fun _ => none, request none "/a.html" host⟩,
    ⟨replying, request (some ⟨"example.com:443", by decide⟩) "" .empty⟩]
  have hanswered :
      (visits.countP fun visit => (e.bundle.request.answer? visit.request).isSome) = 1 := by
    decide +kernel
  have hsent : (visits.map fun visit => (e.exchange visit).sent.length).sum = 2 := by decide +kernel
  have hunbuilt : (visits.countP fun visit => e.bundle.request.unbuilt visit.request) = 2 := by
    decide +kernel
  have hrules : ((visits.filter e.replied).map e.rulesFor).sum = 1 := by decide +kernel
  obtain ⟨⟨hredirects, hcontacts, hevery, hfaults, hheaderRules⟩, -⟩ := e.run_accounted visits
  rw [hanswered] at hredirects
  rw [hsent] at hcontacts
  have hlength : visits.length = 4 := rfl
  refine ⟨e, visits, rfl, by decide +kernel, hredirects, hcontacts, ?_, hfaults.trans hunbuilt,
    hheaderRules.trans hrules⟩
  omega

end Emulator

end EdgeRouting
