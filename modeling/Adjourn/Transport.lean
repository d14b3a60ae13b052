import Adjourn.Session
import Adjourn.Stepping

/-! The browser's transport: one inbox carries answers, notifications and the news of a
closed socket, and one call at a time waits for it. -/

namespace Adjourn.Transport
open Cbor Contract Delegate Session

inductive OutboundDelegateMsg where
  | applicationMessage (payload : Bytes)
  | other

inductive HostResponse where
  | getResponse (key : Bytes32) (state : Bytes)
  | notFound (id : Bytes32)
  | subscribeResponse (key : Bytes32)
  | putResponse (key : Bytes32)
  | updateResponse (key : Bytes32)
  | updateNotification (key : Bytes32) (update : UpdateData)
  | delegateResponse (values : List OutboundDelegateMsg)
  | ok
  | other (text : String)

inductive ClientError where
  | missingContract
  | other (text : String)

/-- One thing that came off the bridge channel. -/
inductive Frame where
  | result (answer : Except ClientError HostResponse)
  | failed (why : String)
  | closed (why : String)

inductive Routed where
  | response (response : HostResponse)
  | notification (id : Bytes32) (update : UpdateData)
  | failed (why : String)
  | closed (why : String)
  | contractMissing

def route : Frame → Routed
  | .closed why => .closed why
  | .failed why => .failed why
  | .result (.error .missingContract) => .contractMissing
  | .result (.error (.other text)) => .failed text
  | .result (.ok (.updateNotification key update)) => .notification key update
  | .result (.ok response) => .response response

/-- The first close wins, and nothing else latches. -/
def observe (latch : Option String) : Routed → Option String
  | .closed why => some (latch.getD why)
  | _ => latch

inductive ClientRequest where
  | registerDelegate (key : Bytes32)
  | get (id : Bytes32) (subscribe : Bool)
  | put (container : ContractContainer) (state : Bytes)
  | update (key : Bytes32) (delta : Bytes)
  | delegate (request : Request)

def ClientRequest.name : ClientRequest → String
  | .registerDelegate _ => "RegisterDelegate"
  | .get _ _ => "Get"
  | .put _ _ => "Put"
  | .update _ _ => "Update"
  | .delegate _ => "delegate call"

inductive Answer where
  | registered
  | fetched (state : Option Bytes)
  | put
  | updated
  | replied (response : Response)

inductive Fault where
  | sending (operation why : String)
  /-- "no delegate registered" -/
  | noDelegate
  /-- "the connection is closed, so the operation can never be answered" -/
  | latched (operation why : String)
  /-- "timed out waiting for a response" -/
  | timedOut (operation : String)
  /-- "the connection closed while waiting", because the inbox ended. -/
  | ended (operation : String)
  /-- "the node reported an error while waiting" -/
  | failed (operation why : String)
  /-- "the connection closed while waiting", because of a close. -/
  | closed (operation why : String)
  /-- "the node has no record of this contract while waiting" -/
  | missing (operation : String)
  | unexpected (operation : String) (response : HostResponse)
  /-- "delegate sent an undecodable reply" -/
  | undecodable (error : DecodeError)
  /-- "delegate returned no application message" -/
  | noMessage

section Reading
variable (decodeReply : Bytes → Except DecodeError Response)

def readReply : List OutboundDelegateMsg → Except Fault Answer
  | [] => .error .noMessage
  | .applicationMessage payload :: _ => ((decodeReply payload).map .replied).mapError .undecodable
  | .other :: rest => readReply rest

/-- What a waiting request makes of a frame; `none` leaves it waiting. A notification is
parked and a subscribe acknowledgement may come before the answer to a `Get`, which alone
takes a missing contract for an answer. -/
def readAnswer : ClientRequest → Routed → Option (Except Fault Answer)
  | _, .notification _ _ => none
  | request, .failed why => some (.error (.failed request.name why))
  | request, .closed why => some (.error (.closed request.name why))
  | .get _ _, .contractMissing => some (.ok (.fetched none))
  | request, .contractMissing => some (.error (.missing request.name))
  | .get _ _, .response (.getResponse _ state) => some (.ok (.fetched (some state)))
  | .get _ _, .response (.notFound _) => some (.ok (.fetched none))
  | .get _ _, .response (.subscribeResponse _) => none
  | .put _ _, .response (.putResponse _) => some (.ok .put)
  | .update _ _, .response (.updateResponse _) => some (.ok .updated)
  | .registerDelegate _, .response .ok => some (.ok .registered)
  | .registerDelegate _, .response (.delegateResponse _) => some (.ok .registered)
  | .delegate _, .response (.delegateResponse values) => some (readReply decodeReply values)
  | request, .response other => some (.error (.unexpected request.name other))

end Reading

/-- The call that is suspended on the inbox. A request is numbered for reference. -/
inductive Waiter where
  | request (number : Nat) (request : ClientRequest)
  | nextUpdate

/-- A frame in the inbox. The client does not know the number of the request, if any,
that the node answers with it: it is for reference only. -/
structure Arrival where
  frame : Frame
  answers : Option Nat

structure BrowserClient where
  inbox : List Arrival
  pending : List (Bytes32 × UpdateData)
  delegateKey : Option Bytes32
  closed : Option String
  waiting : Option Waiter

def BrowserClient.connected : BrowserClient := ⟨[], [], none, none, none⟩

inductive Outcome where
  | answered (number : Nat) (request : ClientRequest) (ended : Option Arrival) (result : Except Fault Answer)
  | update (notification : Option (Bytes32 × UpdateData))

inductive Event where
  | arrive (arrival : Arrival)
  | call (number : Nat) (request : ClientRequest) (sent : Except String Unit)
  | nextUpdate
  | poll
  | timeout
  | inboxEnds
  | cancel

section Steps
variable (decodeReply : Bytes → Except DecodeError Response)

def callRequest (client : BrowserClient) (number : Nat) (request : ClientRequest) (sent : Except String Unit) :
    BrowserClient × Option Outcome :=
  let fails (fault : Fault) := (client, some (.answered number request none (.error fault)))
  match request, client.delegateKey with
  | .delegate _, none => fails .noDelegate
  | _, _ =>
    match sent with
    | .error why => fails (.sending request.name why)
    | .ok () =>
      -- a close that another call consumed is still a close
      match client.closed with
      | some why => fails (.latched request.name why)
      | none => ({ client with waiting := some (.request number request) }, none)

/-- `next_update` up to its wait: what is parked first, then the latch. -/
def callNextUpdate (client : BrowserClient) : BrowserClient × Option Outcome :=
  match client.pending with
  | parked :: rest => ({ client with pending := rest }, some (.update (some parked)))
  | [] =>
    if client.closed.isSome then (client, some (.update none))
    else ({ client with waiting := some .nextUpdate }, none)

def pollRequest (client : BrowserClient) (number : Nat) (request : ClientRequest) (arrival : Arrival) :
    BrowserClient × Option Outcome :=
  match route arrival.frame with
  | .notification id update => ({ client with pending := client.pending ++ [(id, update)] }, none)
  | routed =>
    match readAnswer decodeReply request routed with
    | none => (client, none)
    | some result =>
      let delegateKey :=
        match request, result with
        | .registerDelegate key, .ok _ => some key
        | _, _ => client.delegateKey
      ({ client with waiting := none, delegateKey := delegateKey },
        some (.answered number request (some arrival) result))

def pollNextUpdate (client : BrowserClient) (routed : Routed) : BrowserClient × Option Outcome :=
  match routed with
  | .notification id update => ({ client with waiting := none }, some (.update (some (id, update))))
  | .closed _ => ({ client with waiting := none }, some (.update none))
  | .response _ | .failed _ | .contractMissing => (client, none)

def BrowserClient.takes (client : BrowserClient) (arrival : Arrival) (rest : List Arrival) : BrowserClient :=
  { client with inbox := rest, closed := observe client.closed (route arrival.frame) }

def pollInbox (client : BrowserClient) : Option (BrowserClient × Option Outcome) :=
  match client.waiting, client.inbox with
  | some (.request number request), arrival :: rest =>
    some (pollRequest decodeReply (client.takes arrival rest) number request arrival)
  | some .nextUpdate, arrival :: rest => some (pollNextUpdate (client.takes arrival rest) (route arrival.frame))
  | _, _ => none

/-- One event. The methods borrow the client, so no call begins while another waits. -/
def react (client : BrowserClient) : Event → Option (BrowserClient × Option Outcome)
  | .arrive arrival => some ({ client with inbox := client.inbox ++ [arrival] }, none)
  | .call number request sent =>
    if client.waiting.isSome then none else some (callRequest client number request sent)
  | .nextUpdate => if client.waiting.isSome then none else some (callNextUpdate client)
  | .poll => pollInbox decodeReply client
  | .timeout =>
    match client.waiting with
    | some (.request number request) =>
      some ({ client with waiting := none },
        some (.answered number request none (.error (.timedOut request.name))))
    | _ => none
  | .inboxEnds =>
    match client.waiting, client.inbox with
    | some (.request number request), [] =>
      some ({ client with waiting := none },
        some (.answered number request none (.error (.ended request.name))))
    | some .nextUpdate, [] => some ({ client with waiting := none }, some (.update none))
    | _, _ => none
  | .cancel => if client.waiting.isSome then some ({ client with waiting := none }, none) else none

end Steps

def Routed.notice : Routed → Option (Bytes32 × UpdateData)
  | .notification id update => some (id, update)
  | _ => none

def Routed.close : Routed → Option String
  | .closed why => some why
  | _ => none

def Arrival.notice (arrival : Arrival) : Option (Bytes32 × UpdateData) := (route arrival.frame).notice

def Arrival.close (arrival : Arrival) : Option String := (route arrival.frame).close

def Event.arrival : Event → Option Arrival
  | .arrive arrival => some arrival
  | _ => none

def Event.called : Event → Option Nat
  | .call number _ _ => some number
  | _ => none

def Event.asks : Event → Bool
  | .nextUpdate => true
  | _ => false

def Outcome.returned : Outcome → Option (Option (Bytes32 × UpdateData))
  | .update notification => some notification
  | .answered .. => none

def Outcome.number : Outcome → Option Nat
  | .answered number .. => some number
  | .update _ => none

def arrivals (events : List Event) : List Arrival := events.filterMap Event.arrival
def notices (inbox : List Arrival) : List (Bytes32 × UpdateData) := inbox.filterMap Arrival.notice

def delivered (outcomes : List Outcome) : List (Bytes32 × UpdateData) :=
  outcomes.filterMap fun outcome => outcome.returned.join

theorem observe_eq (latch : Option String) (routed : Routed) : observe latch routed = latch.or routed.close := by
  cases routed <;> cases latch <;> rfl

section Conservation
variable {decodeReply : Bytes → Except DecodeError Response} {events : List Event} {outcomes : List Outcome}
  {client client' : BrowserClient} {event : Event} {outcome : Option Outcome}

/-- Where the notifications are, what the latch has seen, and who may wait. -/
structure Faithful (events : List Event) (outcomes : List Outcome) (client : BrowserClient) : Prop where
  kept : delivered outcomes ++ client.pending ++ notices client.inbox = notices (arrivals events)
  read : ∃ read, arrivals events = read ++ client.inbox ∧ client.closed = read.findSome? Arrival.close
  alone : client.waiting = some .nextUpdate → client.pending = []
  latched : client.closed.isSome = true → client.waiting = none

theorem faithful_connected : Faithful [] [] .connected :=
  ⟨rfl, ⟨[], rfl, rfl⟩, fun _ => rfl, fun _ => rfl⟩

theorem arrivals_snoc (events : List Event) (event : Event) :
    arrivals (events ++ [event]) = arrivals events ++ event.arrival.toList := by
  cases arrived : event.arrival <;> simp [arrivals, arrived]

theorem delivered_snoc (outcomes : List Outcome) (outcome : Option Outcome) :
    delivered (outcomes ++ outcome.toList) = delivered outcomes ++ delivered outcome.toList :=
  List.filterMap_append

theorem callRequest_cases (client : BrowserClient) (number : Nat) (request : ClientRequest)
    (sent : Except String Unit) :
    (∃ fault, callRequest client number request sent =
      (client, some (.answered number request none (.error fault)))) ∨
    (client.closed = none ∧ callRequest client number request sent =
      ({ client with waiting := some (.request number request) }, none)) := by
  unfold callRequest
  cases latch : client.closed with
  | some why => cases request <;> cases client.delegateKey <;> cases sent <;> exact .inl ⟨_, rfl⟩
  | none =>
    cases sent with
    | error why => cases request <;> cases client.delegateKey <;> exact .inl ⟨_, rfl⟩
    | ok _ =>
      cases request with
      | delegate request =>
        cases client.delegateKey with
        | none => exact .inl ⟨_, rfl⟩
        | some key => exact .inr ⟨rfl, rfl⟩
      | _ => exact .inr ⟨rfl, rfl⟩

theorem Faithful.waits (faithful : Faithful events outcomes client) (event : Event) (outcome : Option Outcome)
    (still : event.arrival = none) (silent : delivered outcome.toList = []) (waiting : Option Waiter)
    (delegateKey : Option Bytes32)
    (alone : waiting = some .nextUpdate → client.pending = [])
    (latched : client.closed.isSome = true → waiting = none) :
    Faithful (events ++ [event]) (outcomes ++ outcome.toList)
      { client with waiting := waiting, delegateKey := delegateKey } := by
  have same : arrivals (events ++ [event]) = arrivals events := by simp [arrivals_snoc, still]
  refine ⟨?_, ?_, alone, latched⟩
  · rw [delivered_snoc, silent, List.append_nil, same]
    exact faithful.kept
  · rw [same]
    exact faithful.read

theorem faithful_arrive (faithful : Faithful events outcomes client) (arrival : Arrival) :
    Faithful (events ++ [.arrive arrival]) (outcomes ++ [])
      { client with inbox := client.inbox ++ [arrival] } := by
  obtain ⟨read, all, latch⟩ := faithful.read
  have later : arrivals (events ++ [.arrive arrival]) = arrivals events ++ [arrival] := arrivals_snoc _ _
  refine ⟨?_, ⟨read, ?_, latch⟩, faithful.alone, faithful.latched⟩
  · rw [later, notices, notices, List.filterMap_append, List.filterMap_append, List.append_nil,
      ← List.append_assoc]
    exact congrArg (· ++ _) faithful.kept
  · rw [later, all, List.append_assoc]

theorem callNextUpdate_cases (client : BrowserClient) :
    (∃ parked rest, client.pending = parked :: rest ∧
      callNextUpdate client = ({ client with pending := rest }, some (.update (some parked)))) ∨
    (client.pending = [] ∧ client.closed.isSome = true ∧
      callNextUpdate client = (client, some (.update none))) ∨
    (client.pending = [] ∧ client.closed.isSome = false ∧
      callNextUpdate client = ({ client with waiting := some .nextUpdate }, none)) := by
  unfold callNextUpdate
  cases client.pending with
  | cons parked rest => exact .inl ⟨parked, rest, rfl, rfl⟩
  | nil =>
    cases shut : client.closed.isSome with
    | true => exact .inr (.inl ⟨rfl, rfl, rfl⟩)
    | false => exact .inr (.inr ⟨rfl, rfl, rfl⟩)

theorem faithful_callNextUpdate (faithful : Faithful events outcomes client) (idle : client.waiting = none) :
    Faithful (events ++ [.nextUpdate]) (outcomes ++ (callNextUpdate client).2.toList) (callNextUpdate client).1 := by
  rcases callNextUpdate_cases client with ⟨parked, rest, pending, done⟩ | ⟨empty, shut, done⟩ | ⟨empty, opens, done⟩
  · have kept := faithful.kept
    rw [pending] at kept
    rw [done]
    refine ⟨?_, ?_, fun waits => ?_, faithful.latched⟩
    · rw [delivered_snoc, arrivals_snoc]
      simpa [Event.arrival, delivered, Outcome.returned] using kept
    · rw [arrivals_snoc]
      simpa [Event.arrival] using faithful.read
    · rw [show client.waiting = some .nextUpdate from waits] at idle
      cases idle
  · rw [done]
    exact faithful.waits .nextUpdate (some (.update none)) rfl rfl _ _ faithful.alone faithful.latched
  · rw [done]
    exact faithful.waits .nextUpdate none rfl rfl (some .nextUpdate) _ (fun _ => empty) (by simp [opens])

theorem pollRequest_cases (client : BrowserClient) (number : Nat) (request : ClientRequest) (arrival : Arrival) :
    (∃ notification, arrival.notice = some notification ∧ arrival.close = none ∧
      readAnswer decodeReply request (route arrival.frame) = none ∧
      pollRequest decodeReply client number request arrival =
        ({ client with pending := client.pending ++ [notification] }, none)) ∨
    (arrival.notice = none ∧ arrival.close = none ∧
      readAnswer decodeReply request (route arrival.frame) = none ∧
      pollRequest decodeReply client number request arrival = (client, none)) ∨
    (arrival.notice = none ∧ ∃ delegateKey result,
      readAnswer decodeReply request (route arrival.frame) = some result ∧
      pollRequest decodeReply client number request arrival =
        ({ client with waiting := none, delegateKey := delegateKey },
          some (.answered number request (some arrival) result))) := by
  unfold pollRequest Arrival.notice Arrival.close
  cases route arrival.frame with
  | notification id update => exact .inl ⟨(id, update), rfl, rfl, by cases request <;> rfl, rfl⟩
  | response response =>
    right
    cases answer : readAnswer decodeReply request (.response response) with
    | none => exact .inl ⟨rfl, rfl, rfl, by simp [answer]⟩
    | some result => exact .inr ⟨rfl, _, result, rfl, by simp only [answer]; rfl⟩
  | failed why => cases request <;> exact .inr (.inr ⟨rfl, _, _, rfl, rfl⟩)
  | closed why => cases request <;> exact .inr (.inr ⟨rfl, _, _, rfl, rfl⟩)
  | contractMissing => cases request <;> exact .inr (.inr ⟨rfl, _, _, rfl, rfl⟩)

theorem Faithful.polls (faithful : Faithful events outcomes client) {arrival : Arrival} {rest : List Arrival}
    (inbox : client.inbox = arrival :: rest) :
    delivered outcomes ++ client.pending ++ (arrival.notice.toList ++ notices rest) =
      notices (arrivals (events ++ [.poll])) ∧
    ∃ read, arrivals (events ++ [.poll]) = read ++ rest ∧
      (client.takes arrival rest).closed = read.findSome? Arrival.close := by
  have same : arrivals (events ++ [.poll]) = arrivals events := by simp [arrivals_snoc, Event.arrival]
  have kept := faithful.kept
  obtain ⟨read, all, latch⟩ := faithful.read
  rw [inbox] at kept all
  rw [same]
  constructor
  · rw [← kept]
    cases noticed : arrival.notice <;> simp [notices, noticed]
  · refine ⟨read ++ [arrival], by rw [all, List.append_cons], ?_⟩
    rw [BrowserClient.takes, observe_eq, latch, List.findSome?_append]
    cases closes : arrival.close <;> simp_all [Arrival.close]

theorem Faithful.close_of_waits (faithful : Faithful events outcomes client) {waiter : Waiter}
    (waits : client.waiting = some waiter) (arrival : Arrival) (rest : List Arrival) :
    (client.takes arrival rest).closed = arrival.close := by
  have opens : client.closed = none := by
    by_contra shut
    have idle := faithful.latched (Option.isSome_iff_ne_none.2 shut)
    rw [waits] at idle
    cases idle
  rw [BrowserClient.takes, observe_eq, opens]
  rfl

theorem faithful_pollRequest (faithful : Faithful events outcomes client) {arrival : Arrival}
    {rest : List Arrival} (inbox : client.inbox = arrival :: rest) {number : Nat} {request : ClientRequest}
    (waits : client.waiting = some (.request number request)) (polled : BrowserClient × Option Outcome)
    (taken : pollRequest decodeReply (client.takes arrival rest) number request arrival = polled) :
    Faithful (events ++ [.poll]) (outcomes ++ polled.2.toList) polled.1 := by
  obtain ⟨kept, read⟩ := faithful.polls inbox
  have closes := faithful.close_of_waits waits arrival rest
  have busy : client.waiting ≠ some .nextUpdate := by simp [waits]
  rw [← taken]
  rcases pollRequest_cases (client.takes arrival rest) number request arrival
    with ⟨notification, noticed, calm, -, done⟩ | ⟨quiet, calm, -, done⟩ | ⟨quiet, delegateKey, result, -, done⟩
  · rw [done]
    refine ⟨?_, read, fun asks => absurd asks busy, fun shut => ?_⟩
    · rw [← kept, noticed]
      simp [BrowserClient.takes]
    · rw [show (client.takes arrival rest).closed = none from closes.trans calm] at shut
      cases shut
  · rw [done]
    refine ⟨?_, read, fun asks => absurd asks busy, fun shut => ?_⟩
    · rw [← kept, quiet]
      simp [BrowserClient.takes]
    · rw [show (client.takes arrival rest).closed = none from closes.trans calm] at shut
      cases shut
  · rw [done]
    refine ⟨?_, read, fun asks => (by cases asks), fun _ => rfl⟩
    rw [← kept, quiet]
    simp [BrowserClient.takes, delivered, Outcome.returned]

theorem faithful_pollNextUpdate (faithful : Faithful events outcomes client) {arrival : Arrival}
    {rest : List Arrival} (inbox : client.inbox = arrival :: rest) (waits : client.waiting = some .nextUpdate)
    (polled : BrowserClient × Option Outcome)
    (taken : pollNextUpdate (client.takes arrival rest) (route arrival.frame) = polled) :
    Faithful (events ++ [.poll]) (outcomes ++ polled.2.toList) polled.1 := by
  obtain ⟨kept, read⟩ := faithful.polls inbox
  have closes := faithful.close_of_waits waits arrival rest
  have empty := faithful.alone waits
  rw [← taken]
  rw [Arrival.close] at closes
  rw [Arrival.notice, empty] at kept
  cases routed : route arrival.frame with
  | notification id update =>
    rw [routed] at kept
    refine ⟨?_, read, fun asks => (by cases asks), fun _ => rfl⟩
    rw [← kept]
    simp [BrowserClient.takes, pollNextUpdate, delivered, Outcome.returned, Routed.notice, empty]
  | closed why =>
    rw [routed] at kept
    refine ⟨?_, read, fun asks => (by cases asks), fun _ => rfl⟩
    rw [← kept]
    simp [BrowserClient.takes, pollNextUpdate, delivered, Outcome.returned, Routed.notice, empty]
  | response _ | failed _ | contractMissing =>
    rw [routed] at kept closes
    refine ⟨?_, read, fun _ => empty, fun shut => ?_⟩
    · rw [← kept]
      simp [BrowserClient.takes, pollNextUpdate, Routed.notice, empty]
    · rw [pollNextUpdate, show (client.takes arrival rest).closed = none from closes] at shut
      cases shut

theorem faithful_poll (faithful : Faithful events outcomes client)
    (taken : pollInbox decodeReply client = some (client', outcome)) :
    Faithful (events ++ [.poll]) (outcomes ++ outcome.toList) client' := by
  unfold pollInbox at taken
  cases waits : client.waiting with
  | none => simp [waits] at taken
  | some waiter =>
    cases inbox : client.inbox with
    | nil => cases waiter <;> simp [waits, inbox] at taken
    | cons arrival rest =>
      rw [waits, inbox] at taken
      cases waiter with
      | request number request =>
        exact faithful_pollRequest faithful inbox waits _ (Option.some.inj taken)
      | nextUpdate => exact faithful_pollNextUpdate faithful inbox waits _ (Option.some.inj taken)

theorem faithful_callRequest (faithful : Faithful events outcomes client) (number : Nat)
    (request : ClientRequest) (sent : Except String Unit) :
    Faithful (events ++ [.call number request sent])
      (outcomes ++ (callRequest client number request sent).2.toList)
      (callRequest client number request sent).1 := by
  rcases callRequest_cases client number request sent with ⟨fault, done⟩ | ⟨opens, done⟩
  · rw [done]
    exact faithful.waits (.call number request sent) (some (.answered number request none (.error fault)))
      rfl rfl _ _ faithful.alone faithful.latched
  · rw [done]
    exact faithful.waits (.call number request sent) none rfl rfl _ _ (fun asks => by cases asks)
      (by simp [opens])

theorem faithful_react (faithful : Faithful events outcomes client)
    (taken : react decodeReply client event = some (client', outcome)) :
    Faithful (events ++ [event]) (outcomes ++ outcome.toList) client' := by
  cases event with
  | arrive arrival =>
    obtain ⟨rfl, rfl⟩ := Prod.ext_iff.1 (Option.some.inj taken)
    exact faithful_arrive faithful arrival
  | call number request sent =>
    simp only [react] at taken
    split_ifs at taken with busy
    obtain ⟨rfl, rfl⟩ := Prod.ext_iff.1 (Option.some.inj taken)
    exact faithful_callRequest faithful number request sent
  | nextUpdate =>
    simp only [react] at taken
    split_ifs at taken with busy
    obtain ⟨rfl, rfl⟩ := Prod.ext_iff.1 (Option.some.inj taken)
    exact faithful_callNextUpdate faithful (by simpa using busy)
  | poll => exact faithful_poll faithful taken
  | timeout =>
    simp only [react] at taken
    split at taken
    · obtain ⟨rfl, rfl⟩ := Prod.ext_iff.1 (Option.some.inj taken)
      exact faithful.waits _ (some _) rfl rfl none _ (fun asks => by cases asks) fun _ => rfl
    · cases taken
  | inboxEnds =>
    simp only [react] at taken
    split at taken
    · obtain ⟨rfl, rfl⟩ := Prod.ext_iff.1 (Option.some.inj taken)
      exact faithful.waits _ (some _) rfl rfl none _ (fun asks => by cases asks) fun _ => rfl
    · obtain ⟨rfl, rfl⟩ := Prod.ext_iff.1 (Option.some.inj taken)
      exact faithful.waits _ (some _) rfl rfl none _ (fun asks => by cases asks) fun _ => rfl
    · cases taken
  | cancel =>
    simp only [react] at taken
    split_ifs at taken
    obtain ⟨rfl, rfl⟩ := Prod.ext_iff.1 (Option.some.inj taken)
    exact faithful.waits _ none rfl rfl none _ (fun asks => by cases asks) fun _ => rfl

theorem faithful_run (ran : Stepping.Run (react decodeReply) .connected events outcomes client) :
    Faithful events outcomes client := by
  induction ran with
  | nil => exact faithful_connected
  | snoc _ taken earlier => exact faithful_react earlier taken

/-- What is left of a connection whose close was seen: requests fail, parked notifications
are handed out, and the inbox only grows. -/
structure Latched (client : BrowserClient) (why : String) (later : List Event) (outcomes : List Outcome)
    (client' : BrowserClient) : Prop where
  closed : client'.closed = some why
  idle : client'.waiting = none
  unread : client'.inbox = client.inbox ++ arrivals later
  numbers : outcomes.filterMap Outcome.number = later.filterMap Event.called
  fails : ∀ number request ended result, .answered number request ended result ∈ outcomes →
    ∃ fault, result = .error fault
  returned : outcomes.filterMap Outcome.returned =
    (List.range (later.countP Event.asks)).map (client.pending[·]?)
  pending : client'.pending = client.pending.drop (later.countP Event.asks)

theorem callNextUpdate_latched (shut : client.closed.isSome = true) :
    callNextUpdate client =
      ({ client with pending := client.pending.tail }, some (.update client.pending.head?)) := by
  rcases callNextUpdate_cases client with ⟨parked, rest, pending, done⟩ | ⟨empty, -, done⟩ | ⟨-, opens, -⟩
  · rw [done, pending]
    rfl
  · rw [done, empty, List.head?_nil, List.tail_nil, ← empty]
  · rw [shut] at opens
    cases opens

section Latched
variable {why : String} {start : BrowserClient} (latched : Latched start why events outcomes client)
include latched

theorem Latched.arrive (arrival : Arrival) : Latched start why (events ++ [.arrive arrival]) outcomes
    { client with inbox := client.inbox ++ [arrival] } where
  closed := latched.closed
  idle := latched.idle
  unread := by
    rw [arrivals_snoc, ← List.append_assoc, ← latched.unread]
    rfl
  numbers := by simpa [List.filterMap_cons, Event.called] using latched.numbers
  fails := latched.fails
  returned := by simpa [Event.asks] using latched.returned
  pending := by simpa [Event.asks] using latched.pending

theorem Latched.unread_snoc {event : Event} (quiet : event.arrival = none) :
    client.inbox = start.inbox ++ arrivals (events ++ [event]) := by
  rw [arrivals_snoc, quiet, Option.toList_none, List.append_nil]
  exact latched.unread

theorem Latched.call (number : Nat) (request : ClientRequest) (sent : Except String Unit)
    (fault : Fault) : Latched start why (events ++ [.call number request sent])
      (outcomes ++ [.answered number request none (.error fault)]) client where
  closed := latched.closed
  idle := latched.idle
  unread := latched.unread_snoc rfl
  numbers := by simpa [List.filterMap_cons, Event.called, Outcome.number] using latched.numbers
  fails number' request' ended result member := by
    rcases List.mem_append.1 member with earlier | last
    · exact latched.fails number' request' ended result earlier
    · obtain ⟨-, -, -, rfl⟩ := Outcome.answered.inj (List.mem_singleton.1 last)
      exact ⟨fault, rfl⟩
  returned := by simpa [List.filterMap_cons, Event.asks, Outcome.returned] using latched.returned
  pending := by simpa [Event.asks] using latched.pending

theorem Latched.nextUpdate : Latched start why (events ++ [.nextUpdate])
    (outcomes ++ [.update client.pending.head?]) { client with pending := client.pending.tail } where
  closed := latched.closed
  idle := latched.idle
  unread := latched.unread_snoc rfl
  numbers := by simpa [List.filterMap_cons, Event.called, Outcome.number] using latched.numbers
  fails number request ended result member := by
    rcases List.mem_append.1 member with earlier | last
    · exact latched.fails number request ended result earlier
    · cases List.mem_singleton.1 last
  returned := by
    have asked : (events ++ [Event.nextUpdate]).countP Event.asks = events.countP Event.asks + 1 := by
      simp [List.countP_append, Event.asks]
    have next : start.pending[events.countP Event.asks]? = client.pending.head? := by
      rw [latched.pending, List.head?_drop]
    rw [asked, List.range_succ, List.map_append, List.filterMap_append, latched.returned, List.map_singleton, next]
    rfl
  pending := by
    have asked : (events ++ [Event.nextUpdate]).countP Event.asks = events.countP Event.asks + 1 := by
      simp [List.countP_append, Event.asks]
    rw [asked, ← List.tail_drop, ← latched.pending]

theorem latched_react (taken : react decodeReply client event = some (client', outcome)) :
    Latched start why (events ++ [event]) (outcomes ++ outcome.toList) client' := by
  have shut : client.closed.isSome = true := by rw [latched.closed]; rfl
  have idle := latched.idle
  cases event with
  | arrive arrival =>
    obtain ⟨rfl, rfl⟩ := Prod.ext_iff.1 (Option.some.inj taken)
    simpa using latched.arrive arrival
  | call number request sent =>
    simp only [react, idle] at taken
    rcases callRequest_cases client number request sent with ⟨fault, done⟩ | ⟨opens, -⟩
    · rw [done] at taken
      obtain ⟨rfl, rfl⟩ := Prod.ext_iff.1 (Option.some.inj taken)
      exact latched.call number request sent fault
    · simp [opens] at shut
  | nextUpdate =>
    simp only [react, idle, callNextUpdate_latched shut] at taken
    obtain ⟨rfl, rfl⟩ := Prod.ext_iff.1 (Option.some.inj taken)
    have later := latched.nextUpdate
    rw [idle] at later
    exact later
  | poll => simp [react, pollInbox, idle] at taken
  | timeout | inboxEnds | cancel => simp [react, idle] at taken

end Latched

theorem latched_run {why : String} {start : BrowserClient} (closed : start.closed = some why)
    (idle : start.waiting = none) (ran : Stepping.Run (react decodeReply) start events outcomes client) :
    Latched start why events outcomes client := by
  induction ran with
  | nil => exact ⟨closed, idle, by simp [arrivals], rfl, by simp, rfl, rfl⟩
  | snoc _ taken earlier => exact latched_react earlier taken

end Conservation

/-- On every run of a client: what `next_update` has returned, what is parked and what is
still unread are the notifications that arrived, in their order; the latch holds the first
close among the frames that were read, if there is one; and from then on every request
fails, the parked notifications are handed out one by one and then `None`, and no call
waits or reads the inbox. -/
theorem notifications_kept (decodeReply : Bytes → Except DecodeError Response) (events : List Event)
    (outcomes : List Outcome) (client : BrowserClient)
    (ran : Stepping.Run (react decodeReply) .connected events outcomes client) :
    delivered outcomes ++ client.pending ++ notices client.inbox = notices (arrivals events) ∧
    (∃ read, arrivals events = read ++ client.inbox ∧ client.closed = read.findSome? Arrival.close) ∧
    ∀ why, client.closed = some why → ∀ later outcomes' client',
      Stepping.Run (react decodeReply) client later outcomes' client' →
        Latched client why later outcomes' client' := by
  have faithful := faithful_run ran
  refine ⟨faithful.kept, faithful.read, fun why closed later outcomes' client' goes => ?_⟩
  exact latched_run closed (faithful.latched (by rw [closed]; rfl)) goes

def restart : List Event :=
  [.call 0 (.get (Sample.word 0) false) (.ok ()),
    .arrive ⟨.result (.ok (.updateNotification (Sample.word 0) (.delta []))), none⟩, .poll,
    .arrive ⟨.closed "restart", none⟩, .poll]

/-- The `Get` fails, and the move is handed out all the same before the stream ends. -/
theorem notifications_kept_restart :
    Latched ⟨[], [(Sample.word 0, .delta [])], none, some "restart", none⟩ "restart"
      [.nextUpdate, .nextUpdate] [.update (some (Sample.word 0, .delta [])), .update none]
      ⟨[], [], none, some "restart", none⟩ :=
  (notifications_kept (fun _ => .error (.custom "")) restart
    [.answered 0 (.get (Sample.word 0) false) (some ⟨.closed "restart", none⟩)
      (.error (.closed "Get" "restart"))] _
    (Stepping.run_of_drive rfl)).2.2 "restart" rfl _ _ _ (Stepping.run_of_drive rfl)

end Adjourn.Transport
