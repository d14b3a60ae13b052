import Adjourn.Transport

/-! Whose answer a request gets. Frames carry no correlation: the node answers in order,
and the main actor keeps its client after a time-out, so an answer that comes late ends the
next request. -/

namespace Adjourn.Correlation
open Cbor Transport

/-- A frame with which the node can answer the request. An answer that does not decode
comes as `failed`. -/
def answers : ClientRequest → Frame → Bool
  | _, .result (.error _) => true
  | _, .failed _ => true
  | .get id _, .result (.ok (.getResponse key _)) => decide (key = id)
  | .get id _, .result (.ok (.notFound key)) => decide (key = id)
  | .put _ _, .result (.ok (.putResponse _)) => true
  | .update key _, .result (.ok (.updateResponse key')) => decide (key' = key)
  | .registerDelegate _, .result (.ok .ok) => true
  | .registerDelegate _, .result (.ok (.delegateResponse _)) => true
  | .delegate _, .result (.ok (.delegateResponse _)) => true
  | _, _ => false

/-- A frame that answers no request. -/
def strays : Frame → Bool
  | .result (.ok (.updateNotification _ _)) => true
  | .result (.ok (.subscribeResponse _)) => true
  | .failed _ => true
  | .closed _ => true
  | _ => false

/-- A connection with what was sent on it. A request's number is its place there. -/
structure Link where
  client : BrowserClient
  sent : List ClientRequest
  answered : Nat
  /-- What was owed when the last of these was sent. -/
  before : List Nat

namespace Link
variable (link : Link)

def opened : Link := ⟨.connected, [], 0, []⟩

def owed : List Nat := link.client.inbox.filterMap Arrival.answers ++ (List.range link.sent.length).drop link.answered

end Link

/-- What a request has returned, with what was owed when it was sent and the frame that
ended it. -/
structure Returned where
  number : Nat
  request : ClientRequest
  before : List Nat
  ended : Option Arrival
  result : Except Fault Answer

def Returned.Own (returned : Returned) : Prop :=
  ∃ arrival, returned.ended = some arrival ∧ arrival.answers = some returned.number

/-- The main actor: its `client`, or before that the fresh one whose delegate is being
registered. -/
structure Actor where
  link : Option Link
  kept : Bool

def Actor.idle : Actor := ⟨none, false⟩

inductive Act where
  | connect (key : Bytes32) (sent : Except String Unit)
  | request (request : ClientRequest) (sent : Except String Unit)
  | answer (frame : Frame)
  | push (frame : Frame)
  | poll
  | timeout
  | inboxEnds
  | reconnect

section Steps
variable (decodeReply : Bytes → Except DecodeError Delegate.Response)

def transmits (client : BrowserClient) (request : ClientRequest) (sent : Except String Unit) : Bool :=
  match request, client.delegateKey with
  | .delegate _, none => false
  | _, _ => sent.isOk

/-- The actor after a step of its client: a failed registration drops the fresh client, and
any other failure drops the client only where a close was latched. -/
def settle (kept : Bool) (link : Link) : Option Outcome → Actor × Option Returned
  | some (.answered number request ended result) =>
    let actor : Actor :=
      match result with
      | .ok _ => ⟨some link, true⟩
      | .error _ => if kept && link.client.closed.isNone then ⟨some link, true⟩ else ⟨none, false⟩
    (actor, some ⟨number, request, link.before, ended, result⟩)
  | _ => (⟨some link, kept⟩, none)

def Link.calls (link : Link) (client : BrowserClient) (request : ClientRequest) (transmitted : Bool) : Link :=
  { link with
    client := client
    sent := if transmitted then link.sent ++ [request] else link.sent
    before := link.owed }

def send (kept : Bool) (link : Link) (request : ClientRequest) (sent : Except String Unit) :
    Actor × Option Returned :=
  let (client, outcome) := callRequest link.client link.sent.length request sent
  settle kept (link.calls client request (transmits link.client request sent)) outcome

def advance (kept : Bool) (link : Link) (event : Event) : Option (Actor × Option Returned) := do
  let (client, outcome) ← react decodeReply link.client event
  return settle kept { link with client := client } outcome

def receive (link : Link) (arrival : Arrival) : Link :=
  { link with client := { link.client with inbox := link.client.inbox ++ [arrival] } }

def act (actor : Actor) : Act → Option (Actor × Option Returned)
  | .connect key sent =>
    match actor.link with
    | none => some (send false .opened (.registerDelegate key) sent)
    | some _ => none
  | .request request sent => do
    let link ← actor.link
    if actor.kept && link.client.waiting.isNone then return send true link request sent else none
  | .answer frame => do
    let link ← actor.link
    let request ← link.sent[link.answered]?
    if answers request frame then
      return (⟨some { receive link ⟨frame, some link.answered⟩ with answered := link.answered + 1 }, actor.kept⟩,
        none)
    else none
  | .push frame => do
    let link ← actor.link
    if strays frame then return (⟨some (receive link ⟨frame, none⟩), actor.kept⟩, none) else none
  | .poll => do advance decodeReply actor.kept (← actor.link) .poll
  | .timeout => do advance decodeReply actor.kept (← actor.link) .timeout
  | .inboxEnds => do advance decodeReply actor.kept (← actor.link) .inboxEnds
  | .reconnect => do
    let link ← actor.link
    if actor.kept && link.client.waiting.isNone then return (.idle, none) else none

end Steps

section Soundness
variable {decodeReply : Bytes → Except DecodeError Delegate.Response} {link : Link} {client : BrowserClient}
  {request : ClientRequest} {sent : Except String Unit} {arrival : Arrival} {number : Nat}

def Honest (requests : List ClientRequest) (arrival : Arrival) : Prop :=
  arrival.answers = none ∧ strays arrival.frame = true ∨
    ∃ number request, arrival.answers = some number ∧ requests[number]? = some request ∧
      answers request arrival.frame = true

structure Sound (link : Link) : Prop where
  bound : link.answered ≤ link.sent.length
  honest : ∀ arrival ∈ link.client.inbox, Honest link.sent arrival
  waits : ∀ waiter, link.client.waiting = some waiter → ∃ number request, waiter = .request number request ∧
    link.sent[number]? = some request ∧ link.owed = link.before ++ [number] ∧ number ∉ link.before

theorem sound_opened : Sound .opened :=
  ⟨le_rfl, by simp [Link.opened, BrowserClient.connected], fun _ waits => by cases waits⟩

theorem readAnswer_of_answers {other : ClientRequest} {frame : Frame} (fits : answers other frame = true)
    (request : ClientRequest) : readAnswer decodeReply request (route frame) ≠ none := by
  cases frame with
  | failed why => cases request <;> exact Option.some_ne_none _
  | closed why => cases other <;> cases fits
  | result result =>
    cases result with
    | error fault => cases fault <;> cases request <;> exact Option.some_ne_none _
    | ok response =>
      cases response with
      | updateNotification _ _ | subscribeResponse _ => cases other <;> cases fits
      | _ => cases request <;> exact Option.some_ne_none _

theorem readAnswer_of_strays {frame : Frame} (stray : strays frame = true) {value : Answer} :
    readAnswer decodeReply request (route frame) ≠ some (.ok value) := by
  cases frame with
  | failed why => cases request <;> simp [route, readAnswer]
  | closed why => cases request <;> simp [route, readAnswer]
  | result result =>
    cases result with
    | error fault => cases stray
    | ok response => cases response <;> cases stray <;> cases request <;> simp [route, readAnswer]

theorem Honest.untagged {requests : List ClientRequest} (honest : Honest requests arrival)
    (silent : readAnswer decodeReply request (route arrival.frame) = none) : arrival.answers = none := by
  rcases honest with ⟨untagged, -⟩ | ⟨number, other, -, -, fits⟩
  · exact untagged
  · exact absurd silent (readAnswer_of_answers fits request)

theorem Honest.append {requests : List ClientRequest} (honest : Honest requests arrival)
    (request : ClientRequest) : Honest (requests ++ [request]) arrival := by
  rcases honest with stray | ⟨number, other, tagged, place, fits⟩
  · exact .inl stray
  · obtain ⟨inside, _⟩ := List.getElem?_eq_some_iff.1 place
    exact .inr ⟨number, other, tagged, by rw [List.getElem?_append_left inside, place], fits⟩

theorem Sound.owed_lt (sound : Sound link) : ∀ number ∈ link.owed, number < link.sent.length := by
  intro number member
  rcases List.mem_append.1 member with unread | unanswered
  · obtain ⟨arrival, member, tagged⟩ := List.mem_filterMap.1 unread
    rcases sound.honest arrival member with ⟨untagged, -⟩ | ⟨number', other, tagged', place, -⟩
    · rw [untagged] at tagged
      cases tagged
    · obtain rfl := Option.some.inj (tagged'.symm.trans tagged)
      exact (List.getElem?_eq_some_iff.1 place).1
  · exact List.mem_range.1 (List.mem_of_mem_drop unanswered)

theorem transmits_of_waits {client' : BrowserClient}
    (waits : callRequest client number request sent = (client', none)) :
    transmits client request sent = true := by
  cases sent with
  | ok _ =>
    cases request with
    | delegate asked =>
      cases key : client.delegateKey with
      | none => simp [callRequest, key] at waits
      | some _ => simp [transmits, key, Except.isOk, Except.toBool]
    | _ => rfl
  | error why =>
    cases request with
    | delegate asked => cases key : client.delegateKey <;> simp [callRequest, key] at waits
    | _ => simp [callRequest] at waits

/-- A success comes with a frame that was read as it, and the frame answers the request
exactly where nothing was owed when the request was sent. -/
structure Accountable (decodeReply : Bytes → Except DecodeError Delegate.Response) (returned : Returned)
    (value : Answer) : Prop where
  own_iff : returned.Own ↔ returned.before = []
  read : ∃ arrival, returned.ended = some arrival ∧
    readAnswer decodeReply returned.request (route arrival.frame) = some (.ok value) ∧
    (arrival.answers = some returned.number → answers returned.request arrival.frame = true)

/-- What every step of the actor leaves: a sound link, and accountable successes. -/
structure Fair (decodeReply : Bytes → Except DecodeError Delegate.Response)
    (step : Actor × Option Returned) : Prop where
  sound : ∀ link ∈ step.1.link, Sound link
  accountable : ∀ returned ∈ step.2, ∀ value, returned.result = .ok value →
    Accountable decodeReply returned value

theorem settle_link (kept : Bool) (link : Link) (outcome : Option Outcome) :
    ∀ link' ∈ (settle kept link outcome).1.link, link' = link := by
  intro link' member
  unfold settle at member
  split at member
  · split at member
    · exact (Option.some.inj member).symm
    · split_ifs at member
      · exact (Option.some.inj member).symm
      · cases member
  · exact (Option.some.inj member).symm

theorem settle_returned {kept : Bool} {outcome : Option Outcome} {returned : Returned}
    (member : returned ∈ (settle kept link outcome).2) :
    ∃ number request ended result, outcome = some (.answered number request ended result) ∧
      returned = ⟨number, request, link.before, ended, result⟩ := by
  unfold settle at member
  split at member
  · exact ⟨_, _, _, _, rfl, (Option.some.inj member).symm⟩
  · cases member

theorem fair_settle {kept : Bool} {outcome : Option Outcome} (sound : Sound link)
    (success : ∀ number request ended value, outcome = some (.answered number request ended (.ok value)) →
      Accountable decodeReply ⟨number, request, link.before, ended, .ok value⟩ value) :
    Fair decodeReply (settle kept link outcome) := by
  refine ⟨fun link' member => ?_, fun returned member value succeeds => ?_⟩
  · rw [settle_link _ _ _ _ member]
    exact sound
  · obtain ⟨number, request, ended, result, same, rfl⟩ := settle_returned member
    obtain rfl : result = .ok value := succeeds
    exact success number request ended value same

theorem sound_calls (sound : Sound link) (request : ClientRequest) : Sound (link.calls
    { link.client with waiting := some (.request link.sent.length request) } request true) := by
  have extended : (link.calls { link.client with waiting := some (.request link.sent.length request) }
      request true).owed = link.owed ++ [link.sent.length] := by
    rw [Link.owed, Link.calls, if_pos rfl, List.length_append, List.length_singleton, List.range_succ,
      List.drop_append_of_le_length (by simpa using sound.bound), ← List.append_assoc]
    rfl
  refine ⟨?_, ?_, ?_⟩
  · rw [Link.calls, if_pos rfl, List.length_append]
    exact sound.bound.trans (Nat.le_add_right _ _)
  · intro arrival member
    exact (sound.honest arrival member).append request
  · intro waiter waits
    obtain rfl := Option.some.inj waits
    refine ⟨_, request, rfl, ?_, extended, fun member => ?_⟩
    · simp [Link.calls]
    · exact absurd (sound.owed_lt _ member) (lt_irrefl _)

theorem sound_calls_idle (sound : Sound link) (idle : link.client.waiting = none) (request : ClientRequest)
    (transmitted : Bool) : Sound (link.calls link.client request transmitted) := by
  refine ⟨?_, ?_, fun waiter waits => ?_⟩
  · cases transmitted with
    | false => exact sound.bound
    | true =>
      rw [Link.calls, if_pos rfl, List.length_append]
      exact sound.bound.trans (Nat.le_add_right _ _)
  · intro arrival member
    cases transmitted with
    | false => exact sound.honest arrival member
    | true => exact (sound.honest arrival member).append request
  · rw [show link.client.waiting = some waiter from waits] at idle
    cases idle

theorem fair_send (sound : Sound link) (idle : link.client.waiting = none) (kept : Bool) :
    Fair decodeReply (send kept link request sent) := by
  unfold send
  rcases callRequest_cases link.client link.sent.length request sent with ⟨fault, done⟩ | ⟨-, done⟩
  · rw [done]
    refine fair_settle (sound_calls_idle sound idle request _) fun _ _ _ _ same => ?_
    cases (Outcome.answered.inj (Option.some.inj same)).2.2.2
  · rw [done, transmits_of_waits done]
    exact fair_settle (sound_calls sound request) fun _ _ _ _ same => by cases same

theorem sound_receive (sound : Sound link) (stray : strays arrival.frame = true) (untagged : arrival.answers = none) :
    Sound (receive link arrival) := by
  have same : (receive link arrival).owed = link.owed := by
    simp [receive, Link.owed, List.filterMap_append, untagged]
  refine ⟨sound.bound, ?_, ?_⟩
  · intro other member
    rcases List.mem_append.1 member with earlier | last
    · exact sound.honest other earlier
    · rw [List.mem_singleton.1 last]
      exact .inl ⟨untagged, stray⟩
  · rw [same]
    exact sound.waits

theorem sound_answer (sound : Sound link) {frame : Frame} (due : link.sent[link.answered]? = some request)
    (fits : answers request frame = true) :
    Sound { receive link ⟨frame, some link.answered⟩ with answered := link.answered + 1 } := by
  obtain ⟨inside, -⟩ := List.getElem?_eq_some_iff.1 due
  have same : Link.owed { receive link ⟨frame, some link.answered⟩ with answered := link.answered + 1 } =
      link.owed := by
    have next : (List.range link.sent.length).drop link.answered =
        link.answered :: (List.range link.sent.length).drop (link.answered + 1) := by
      rw [List.drop_eq_getElem_cons (by simpa using inside), List.getElem_range]
    rw [Link.owed, Link.owed, next]
    simp [receive, List.filterMap_append]
  refine ⟨inside, ?_, ?_⟩
  · intro other member
    rcases List.mem_append.1 member with earlier | last
    · exact sound.honest other earlier
    · rw [List.mem_singleton.1 last]
      exact .inr ⟨link.answered, request, rfl, due, fits⟩
  · rw [same]
    exact sound.waits

theorem sound_stops (sound : Sound link) : Sound { link with client := { link.client with waiting := none } } :=
  ⟨sound.bound, sound.honest, fun _ waits => by cases waits⟩

section Polled
variable {rest : List Arrival} (inbox : link.client.inbox = arrival :: rest)
include inbox

theorem owed_of_inbox (client : BrowserClient) (unread : client.inbox = rest) :
    link.owed = arrival.answers.toList ++ Link.owed { link with client := client } := by
  rw [Link.owed, Link.owed, inbox, unread]
  cases tagged : arrival.answers <;> simp [tagged]

theorem honest_of_inbox (sound : Sound link) : ∀ other ∈ rest, Honest link.sent other := by
  intro other member
  exact sound.honest other (inbox ▸ List.mem_cons_of_mem _ member)

theorem sound_goesOn (sound : Sound link) (unread : client.inbox = rest)
    (waiting : client.waiting = link.client.waiting)
    (silent : readAnswer decodeReply request (route arrival.frame) = none) :
    Sound { link with client := client } := by
  have untagged := (sound.honest arrival (inbox ▸ List.mem_cons_self)).untagged silent
  have same := owed_of_inbox inbox client unread
  rw [untagged] at same
  have others := honest_of_inbox inbox sound
  rw [← unread] at others
  refine ⟨sound.bound, others, fun waiter waits => ?_⟩
  obtain ⟨number, request, rfl, place, owed, fresh⟩ := sound.waits waiter (waiting.symm.trans waits)
  exact ⟨number, request, rfl, place, same.symm.trans owed, fresh⟩

theorem accountable (sound : Sound link) (waiting : link.client.waiting = some (.request number request))
    {value : Answer} (success : readAnswer decodeReply request (route arrival.frame) = some (.ok value)) :
    Accountable decodeReply ⟨number, request, link.before, some arrival, .ok value⟩ value := by
  obtain ⟨number', request', same, place, owed, fresh⟩ := sound.waits _ waiting
  obtain ⟨rfl, rfl⟩ := Waiter.request.inj same
  rcases sound.honest arrival (inbox ▸ List.mem_cons_self) with ⟨-, stray⟩ | ⟨oldest, other, tagged, place', fits⟩
  · exact absurd success (readAnswer_of_strays stray)
  · have head : link.before ++ [number] =
        oldest :: Link.owed { link with client := link.client.takes arrival rest } := by
      rw [← owed, owed_of_inbox inbox (link.client.takes arrival rest) rfl, tagged]
      rfl
    refine ⟨?_, arrival, rfl, success, fun own => ?_⟩
    · cases earlier : link.before with
      | nil =>
        rw [earlier] at head
        refine iff_of_true ⟨arrival, rfl, ?_⟩ rfl
        rw [tagged, ← (List.cons.inj head).1]
      | cons first others =>
        rw [earlier] at head fresh
        refine iff_of_false (fun own => ?_) (by simp)
        obtain ⟨arrival', same, tagged'⟩ := own
        obtain rfl := Option.some.inj same
        obtain rfl := Option.some.inj (tagged'.symm.trans tagged)
        exact fresh (by simp [(List.cons.inj head).1])
    · obtain rfl := Option.some.inj (own.symm.trans tagged)
      obtain rfl := Option.some.inj (place.symm.trans place')
      exact fits

end Polled

theorem fair_poll (sound : Sound link) {outcome : Option Outcome}
    (polled : pollInbox decodeReply link.client = some (client, outcome)) (kept : Bool) :
    Fair decodeReply (settle kept { link with client := client } outcome) := by
  unfold pollInbox at polled
  cases waiting : link.client.waiting with
  | none => simp [waiting] at polled
  | some waiter =>
    obtain ⟨number, request, rfl, -, -, -⟩ := sound.waits waiter waiting
    cases inbox : link.client.inbox with
    | nil => simp [waiting, inbox] at polled
    | cons arrival rest =>
      simp only [waiting, inbox, Option.some.injEq] at polled
      rcases pollRequest_cases (link.client.takes arrival rest) number request arrival with
        ⟨notification, -, -, silent, done⟩ | ⟨-, -, silent, done⟩ | ⟨-, delegateKey, result, read, done⟩
      · obtain ⟨rfl, rfl⟩ := Prod.ext_iff.1 (done.symm.trans polled)
        exact fair_settle (sound_goesOn inbox sound rfl rfl silent) fun _ _ _ _ same => by cases same
      · obtain ⟨rfl, rfl⟩ := Prod.ext_iff.1 (done.symm.trans polled)
        exact fair_settle (sound_goesOn inbox sound rfl rfl silent) fun _ _ _ _ same => by cases same
      · obtain ⟨rfl, rfl⟩ := Prod.ext_iff.1 (done.symm.trans polled)
        have others := honest_of_inbox inbox sound
        refine fair_settle ⟨sound.bound, others, fun _ waits => by cases waits⟩ fun _ _ _ value same => ?_
        obtain ⟨rfl, rfl, rfl, rfl⟩ := Outcome.answered.inj (Option.some.inj same)
        exact accountable inbox sound waiting read

theorem fair_timeout (sound : Sound link) {outcome : Option Outcome}
    (taken : react decodeReply link.client .timeout = some (client, outcome)) (kept : Bool) :
    Fair decodeReply (settle kept { link with client := client } outcome) := by
  simp only [react] at taken
  split at taken
  · obtain ⟨rfl, rfl⟩ := Prod.ext_iff.1 (Option.some.inj taken)
    refine fair_settle (sound_stops sound) fun _ _ _ _ same => ?_
    cases (Outcome.answered.inj (Option.some.inj same)).2.2.2
  · cases taken

theorem fair_inboxEnds (sound : Sound link) {outcome : Option Outcome}
    (taken : react decodeReply link.client .inboxEnds = some (client, outcome)) (kept : Bool) :
    Fair decodeReply (settle kept { link with client := client } outcome) := by
  simp only [react] at taken
  split at taken
  · obtain ⟨rfl, rfl⟩ := Prod.ext_iff.1 (Option.some.inj taken)
    refine fair_settle (sound_stops sound) fun _ _ _ _ same => ?_
    cases (Outcome.answered.inj (Option.some.inj same)).2.2.2
  · obtain ⟨rfl, rfl⟩ := Prod.ext_iff.1 (Option.some.inj taken)
    exact fair_settle (sound_stops sound) fun _ _ _ _ same => by cases same
  · cases taken

theorem fair_silent (sound : Sound link) (kept : Bool) : Fair decodeReply (⟨some link, kept⟩, none) := by
  refine ⟨fun link' member => ?_, fun _ returned => by cases returned⟩
  obtain rfl := Option.some.inj member
  exact sound

theorem fair_act {actor : Actor} {step : Act} {taken : Actor × Option Returned}
    (sound : ∀ link ∈ actor.link, Sound link) (took : act decodeReply actor step = some taken) :
    Fair decodeReply taken := by
  cases step with
  | connect key sent =>
    cases linked : actor.link with
    | some link => simp [act, linked] at took
    | none =>
      simp only [act, linked, Option.some.injEq] at took
      rw [← took]
      exact fair_send sound_opened rfl false
  | request request sent =>
    obtain ⟨link, linked, took⟩ := Option.bind_eq_some_iff.1 took
    split_ifs at took with free
    obtain rfl := Option.some.inj took
    simp only [Bool.and_eq_true, Option.isNone_iff_eq_none] at free
    exact fair_send (sound link linked) free.2 true
  | answer frame =>
    obtain ⟨link, linked, took⟩ := Option.bind_eq_some_iff.1 took
    obtain ⟨request, due, took⟩ := Option.bind_eq_some_iff.1 took
    split_ifs at took with fits
    obtain rfl := Option.some.inj took
    exact fair_silent (sound_answer (sound link linked) due fits) actor.kept
  | push frame =>
    obtain ⟨link, linked, took⟩ := Option.bind_eq_some_iff.1 took
    split_ifs at took with stray
    obtain rfl := Option.some.inj took
    exact fair_silent (sound_receive (sound link linked) stray rfl) actor.kept
  | poll =>
    obtain ⟨link, linked, took⟩ := Option.bind_eq_some_iff.1 took
    obtain ⟨⟨client, outcome⟩, polled, took⟩ := Option.bind_eq_some_iff.1 took
    obtain rfl := Option.some.inj took
    exact fair_poll (sound link linked) polled actor.kept
  | timeout =>
    obtain ⟨link, linked, took⟩ := Option.bind_eq_some_iff.1 took
    obtain ⟨⟨client, outcome⟩, expired, took⟩ := Option.bind_eq_some_iff.1 took
    obtain rfl := Option.some.inj took
    exact fair_timeout (sound link linked) expired actor.kept
  | inboxEnds =>
    obtain ⟨link, linked, took⟩ := Option.bind_eq_some_iff.1 took
    obtain ⟨⟨client, outcome⟩, ended, took⟩ := Option.bind_eq_some_iff.1 took
    obtain rfl := Option.some.inj took
    exact fair_inboxEnds (sound link linked) ended actor.kept
  | reconnect =>
    obtain ⟨link, linked, took⟩ := Option.bind_eq_some_iff.1 took
    split_ifs at took
    obtain rfl := Option.some.inj took
    exact ⟨fun _ linked => (by cases linked), fun _ returned => by cases returned⟩

theorem fair_run {acts : List Act} {outputs : List Returned} {actor : Actor}
    (ran : Stepping.Run (act decodeReply) .idle acts outputs actor) :
    (∀ link ∈ actor.link, Sound link) ∧ ∀ returned ∈ outputs, ∀ value, returned.result = .ok value →
      Accountable decodeReply returned value := by
  induction ran with
  | nil => exact ⟨fun _ linked => (by cases linked), fun _ returned => by cases returned⟩
  | snoc _ taken earlier =>
    have fair := fair_act earlier.1 taken
    refine ⟨fair.sound, fun returned member => ?_⟩
    rcases List.mem_append.1 member with past | now
    · exact earlier.2 returned past
    · exact fair.accountable returned (Option.mem_toList.1 now)

end Soundness

theorem frame_of_get {decodeReply : Bytes → Except DecodeError Delegate.Response} {id : Bytes32}
    {subscribe : Bool} {frame : Frame} {state : Bytes} (fits : answers (.get id subscribe) frame = true)
    (read : readAnswer decodeReply (.get id subscribe) (route frame) = some (.ok (.fetched (some state)))) :
    frame = .result (.ok (.getResponse id state)) := by
  cases frame with
  | failed why | closed why => simp [route, readAnswer] at read
  | result result =>
    cases result with
    | error fault => cases fault <;> simp [route, readAnswer] at read
    | ok response => cases response <;> simp_all [answers, route, readAnswer]

/-- A success is the node's answer to its own request exactly where no answer was owed when
the request was sent. A `Get` that got its own answer returns the state of its contract. -/
theorem own_answer_iff (decodeReply : Bytes → Except DecodeError Delegate.Response) (acts : List Act)
    (outputs : List Returned) (actor : Actor)
    (ran : Stepping.Run (act decodeReply) .idle acts outputs actor) :
    ∀ returned ∈ outputs, ∀ value, returned.result = .ok value →
      (returned.Own ↔ returned.before = []) ∧
      (returned.Own → ∀ id subscribe state, returned.request = .get id subscribe →
        value = .fetched (some state) →
          returned.ended = some ⟨.result (.ok (.getResponse id state)), some returned.number⟩) := by
  intro returned member value success
  obtain ⟨own, arrival, ended, read, genuine⟩ := (fair_run ran).2 returned member value success
  refine ⟨own, fun mine id subscribe state request fetched => ?_⟩
  obtain ⟨arrival', ended', tagged⟩ := mine
  obtain rfl := Option.some.inj (ended.symm.trans ended')
  have fits := genuine tagged
  rw [request] at fits read
  rw [fetched] at read
  rw [ended, ← tagged, ← frame_of_get fits read]

def prompt : List Act :=
  [.connect (Sample.word 0) (.ok ()), .answer (.result (.ok .ok)), .poll,
    .request (.get (Sample.word 1) false) (.ok ()),
    .answer (.result (.ok (.getResponse (Sample.word 1) [1]))), .poll]

def late : List Act :=
  [.connect (Sample.word 0) (.ok ()), .answer (.result (.ok .ok)), .poll,
    .request (.get (Sample.word 1) false) (.ok ()), .timeout,
    .request (.get (Sample.word 2) false) (.ok ()),
    .answer (.result (.ok (.getResponse (Sample.word 1) [1]))), .poll]

theorem own_answer_prompt : Returned.Own ⟨1, .get (Sample.word 1) false, [],
    some ⟨.result (.ok (.getResponse (Sample.word 1) [1])), some 1⟩, .ok (.fetched (some [1]))⟩ := by
  exact (own_answer_iff (fun _ => .error (.custom "")) prompt [_, _] _ (Stepping.run_of_drive rfl) _
    (List.mem_cons_of_mem _ List.mem_cons_self) _ rfl).1.2 rfl

/-- The second `Get` returns the state of the first one's contract. -/
theorem late_answer : ∃ outputs actor, Stepping.Run (act fun _ => .error (.custom "")) .idle late outputs actor ∧
    ∃ returned ∈ outputs, returned.request = .get (Sample.word 2) false ∧
      returned.result = .ok (.fetched (some [1])) ∧ ¬returned.Own := by
  refine ⟨_, _, Stepping.run_of_drive rfl, ⟨2, .get (Sample.word 2) false, [1],
    some ⟨.result (.ok (.getResponse (Sample.word 1) [1])), some 1⟩, .ok (.fetched (some [1]))⟩, ?_, rfl, rfl, ?_⟩
  · exact List.mem_cons_of_mem _ (List.mem_cons_of_mem _ List.mem_cons_self)
  · intro own
    obtain ⟨arrival, same, tagged⟩ := own
    obtain rfl := Option.some.inj same
    cases tagged

end Adjourn.Correlation
