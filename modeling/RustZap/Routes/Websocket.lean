import RustZap.State.EventStream

open broadcast runs
open rustzap.error rustzap.models rustzap.state

namespace rustzap

namespace security

structure Principal where
  api_key_id : String
  scopes : List String
  project_id : Option String
  company_id : Option String

/-- The service trusts its callers: no principal is kept out of a tenant. -/
def enforce_principal_tenant (_principal : Principal) (_project_id : String)
    (_company_id : Option String) : ApiResult Unit :=
  .ok ()

end security

namespace models

structure SubscribeRequest where
  kind : String
  project_id : String
  company_id : String
  topics : List String

end models

namespace routes

open security

/-- A frame that a session hands to its socket. -/
inductive Frame where
  | subscribed (project_id company_id : String) (topics : List String) (events : List CommonEvent)
  | event (event : CommonEvent)
  | events_lagged (skipped : Nat)
  | error (code message : String)

/-- A message of the client. A text comes with what `serde_json` makes of it. -/
inductive WsMessage where
  | Text (request : Except String SubscribeRequest)
  | Close
  | Other

/-- A session of a client, with the frames that it has handed to its socket so far. -/
structure Session where
  events : Receiver
  subscribed_tenant : Option (String × String)
  frames : List Frame
  closed : Bool

def event_matches_tenant (event : CommonEvent) (project_id company_id : String) : Bool :=
  event.project_id = project_id && event.company_id = company_id

def principal_authorizes_event (principal : Principal) (event : CommonEvent) : Bool :=
  (enforce_principal_tenant principal event.project_id (some event.company_id)).isOk

def websocket_error (err : ApiError) : Frame :=
  .error err.code err.to_string

section Session

variable (subscriptions : Nat) (principal : Principal)

/-- The events that a session of the tenant may see. -/
def visible (tenant : String × String) (event : CommonEvent) : Bool :=
  event_matches_tenant event tenant.1 tenant.2 && principal_authorizes_event principal event

/-- Whether a request subscribes. `subscriptions` is the limit of the topics of a connection. -/
def subscribes : Except String SubscribeRequest → Bool
  | .ok sub => sub.kind = "subscribe" && sub.topics.length ≤ subscriptions
  | .error _ => false

/-- The answer to a text, and the tenant that it subscribes to. -/
def subscribe_response (events : List CommonEvent) (request : Except String SubscribeRequest) :
    Frame × Option (String × String) :=
  match request with
  | .ok sub =>
    if sub.kind = "subscribe" && sub.topics.length ≤ subscriptions then
      match enforce_principal_tenant principal sub.project_id (some sub.company_id) with
      | .ok () =>
        (.subscribed sub.project_id sub.company_id sub.topics
          (events.filter (visible principal (sub.project_id, sub.company_id))),
          some (sub.project_id, sub.company_id))
      | .error err => (websocket_error err, none)
    else (.error "bad_request" "invalid subscribe request", none)
  | .error err => (.error "bad_request" err, none)

def Session.start (events_tx : Sender CommonEvent) : Session where
  events := events_tx.subscribe
  subscribed_tenant := none
  frames := []
  closed := false

/-- The branch of the loop that takes a message of the client; there is none when the
client is gone. `events` are those of the store and `delivered` is whether the socket
takes the answer. -/
def Session.receive (session : Session) (events : List CommonEvent) (message : Option WsMessage)
    (delivered : Bool) : Session :=
  match message with
  | none => { session with closed := true }
  | some (.Text request) =>
    let (response, tenant) := subscribe_response subscriptions principal events request
    { session with
      subscribed_tenant := tenant.or session.subscribed_tenant
      frames := session.frames ++ [response]
      closed := !delivered }
  | some .Close => { session with closed := true }
  | some .Other => session

/-- The branch of the loop that takes the next event. Nobody is subscribed at first, and
then the branch is not taken. -/
def Session.forward (session : Session) (events_tx : Sender CommonEvent) (delivered : Bool) :
    Option Session :=
  match session.subscribed_tenant with
  | none => none
  | some tenant =>
    (session.events.recv events_tx).map fun (received, events) =>
      match received with
      | .ok event =>
        if !event_matches_tenant event tenant.1 tenant.2 || !principal_authorizes_event principal event then
          { session with events }
        else { session with events, frames := session.frames ++ [.event event], closed := !delivered }
      | .error (.Lagged skipped) =>
        { session with events, frames := session.frames ++ [.events_lagged skipped] }

end Session

/-- The service as one connection meets it. Other connections read the broadcast and the
store, and change neither. -/
structure Live where
  stream : EventStream
  session : Session

inductive LiveOp where
  | service (op : StreamOp)
  | receive (message : Option WsMessage) (delivered : Bool)
  | forward (delivered : Bool)

section Live

variable (subscriptions : Nat) (principal : Principal)

/-- The answer to a subscription reads the events of the store under its lock. -/
def reads_store : Option WsMessage → Bool
  | some (.Text request) => subscribes subscriptions request
  | _ => false

/-- Either branch of the loop of a session may be taken whenever it is ready, between any
two steps of the tasks that publish. -/
inductive Live.Step : Live → LiveOp → Live → Prop
  | service {live : Live} {op : StreamOp} {stream : EventStream}
      (hstep : EventStream.Step live.stream op stream) :
      Live.Step live (.service op) { live with stream }
  | receive {live : Live} (message : Option WsMessage) (delivered : Bool)
      (hopen : live.session.closed = false)
      (hfree : reads_store subscriptions message = true → live.stream.locked = false) :
      Live.Step live (.receive message delivered) { live with
        session := live.session.receive subscriptions principal live.stream.events message delivered }
  | forward {live : Live} {session : Session} (delivered : Bool) (hopen : live.session.closed = false)
      (hforward : live.session.forward principal live.stream.events_tx delivered = some session) :
      Live.Step live (.forward delivered) { live with session }

/-- The state when the connection is made. -/
def Live.connect (stream : EventStream) : Live where
  stream
  session := .start stream.events_tx

end Live

section Frames

/-- The tenant that a frame says is subscribed. -/
def Frame.tenant : Frame → Option (String × String)
  | .subscribed project_id company_id _ _ => some (project_id, company_id)
  | _ => none

def Frame.events : Frame → List CommonEvent
  | .subscribed _ _ _ events => events
  | .event shown => [shown]
  | _ => []

def Frame.skipped : Frame → Nat
  | .events_lagged skipped => skipped
  | _ => 0

/-- The frames of the second branch of the loop. -/
def Frame.IsLive : Frame → Bool
  | .event _ => true
  | .events_lagged _ => true
  | _ => false

/-- The tenant of the last subscription among the frames. -/
def subscription (frames : List Frame) : Option (String × String) :=
  (frames.filterMap Frame.tenant).getLast?

theorem subscription_append (frames : List Frame) (frame : Frame) :
    subscription (frames ++ [frame]) = frame.tenant.or (subscription frames) := by
  rw [subscription, List.filterMap_append]
  cases htenant : frame.tenant with
  | none => rw [List.filterMap_cons_none htenant, List.filterMap_nil, List.append_nil]; rfl
  | some tenant => rw [List.filterMap_cons_some htenant, List.filterMap_nil, List.getLast?_concat]; rfl

/-- Every event of a frame belongs to the tenant that was subscribed when the frame was made. -/
def OwnEvents (frames : List Frame) : Prop :=
  ∀ before frame after, frames = before ++ frame :: after → ∀ event ∈ frame.events,
    ∃ tenant, subscription (before ++ [frame]) = some tenant ∧
      event_matches_tenant event tenant.1 tenant.2 = true

theorem OwnEvents.append {frames : List Frame} (h : OwnEvents frames) {frame : Frame}
    (hown : ∀ event ∈ frame.events, ∃ tenant, subscription (frames ++ [frame]) = some tenant ∧
      event_matches_tenant event tenant.1 tenant.2 = true) :
    OwnEvents (frames ++ [frame]) := by
  intro before frame' after hsplit event hevent
  rcases List.eq_nil_or_concat after with rfl | ⟨after, last, rfl⟩
  · -- the frame is the new one
    obtain ⟨rfl, hframe⟩ := List.append_inj' hsplit rfl
    cases hframe
    exact hown event hevent
  · rw [List.concat_eq_append, ← List.cons_append, ← List.append_assoc] at hsplit
    obtain ⟨hframes, -⟩ := List.append_inj' hsplit rfl
    exact h before frame' after hframes event hevent

end Frames

section Sessions

variable {subscriptions : Nat} {principal : Principal} {session : Session}

/-- A text subscribes, or its answer is an error. -/
theorem Session.receive_text (subscriptions : Nat) (principal : Principal) (session : Session)
    (events : List CommonEvent) (request : Except String SubscribeRequest) (delivered : Bool) :
    (∃ sub, request = .ok sub ∧ subscribes subscriptions request = true ∧
      session.receive subscriptions principal events (some (.Text request)) delivered = { session with
        subscribed_tenant := some (sub.project_id, sub.company_id)
        frames := session.frames ++ [.subscribed sub.project_id sub.company_id sub.topics
          (events.filter (visible principal (sub.project_id, sub.company_id)))]
        closed := !delivered }) ∨
    subscribes subscriptions request = false ∧ ∃ code message,
      session.receive subscriptions principal events (some (.Text request)) delivered = { session with
        frames := session.frames ++ [.error code message], closed := !delivered } := by
  unfold Session.receive subscribe_response
  cases request with
  | error err => exact Or.inr ⟨rfl, "bad_request", err, rfl⟩
  | ok sub =>
    by_cases haccepted : (sub.kind = "subscribe" && sub.topics.length ≤ subscriptions) = true
    · refine Or.inl ⟨sub, rfl, haccepted, ?_⟩
      dsimp only
      rw [if_pos haccepted, enforce_principal_tenant]
      rfl
    · refine Or.inr ⟨Bool.eq_false_iff.mpr haccepted, "bad_request", "invalid subscribe request", ?_⟩
      dsimp only
      rw [if_neg haccepted]
      rfl

/-- The frame that a session of the tenant makes of what the broadcast gives it. -/
def live_frame (principal : Principal) (tenant : String × String) : Received CommonEvent → Option Frame
  | .ok event => if visible principal tenant event then some (.event event) else none
  | .error (.Lagged skipped) => some (.events_lagged skipped)

theorem Session.forward_eq_some {events_tx : Sender CommonEvent} {delivered : Bool} {session' : Session}
    (hforward : session.forward principal events_tx delivered = some session') :
    ∃ tenant received, session.subscribed_tenant = some tenant ∧
      session.events.recv events_tx = some (received, session'.events) ∧
      session'.subscribed_tenant = session.subscribed_tenant ∧
      session'.frames = session.frames ++ (live_frame principal tenant received).toList := by
  unfold Session.forward at hforward
  cases htenant : session.subscribed_tenant with
  | none =>
    rw [htenant] at hforward
    cases hforward
  | some tenant =>
    rw [htenant] at hforward
    dsimp only at hforward
    obtain ⟨⟨received, events⟩, hrecv, rfl⟩ := Option.map_eq_some_iff.mp hforward
    refine ⟨tenant, received, rfl, ?_⟩
    rw [hrecv]
    cases received with
    | error lagged => exact ⟨rfl, rfl, rfl⟩
    | ok event =>
      dsimp only
      rw [live_frame, visible]
      split
      · next hhidden =>
        rw [if_neg]
        · exact ⟨rfl, rfl, (List.append_nil _).symm⟩
        · simpa [← Bool.not_and] using hhidden
      · next hshown =>
        rw [if_pos]
        · exact ⟨rfl, rfl, rfl⟩
        · simpa [← Bool.not_and] using hshown

/-- What a session keeps: its frames show events of the subscribed tenant only, and the
tenant it remembers is that of the last subscription. -/
structure Session.Own (session : Session) : Prop where
  tenant : session.subscribed_tenant = subscription session.frames
  events : OwnEvents session.frames

/-- A session that hands out one more frame. -/
theorem Session.Own.append (h : session.Own) {session' : Session} {frame : Frame}
    (hframes : session'.frames = session.frames ++ [frame])
    (htenant : session'.subscribed_tenant = frame.tenant.or session.subscribed_tenant)
    (hevents : ∀ event ∈ frame.events, ∃ tenant, session'.subscribed_tenant = some tenant ∧
      event_matches_tenant event tenant.1 tenant.2 = true) : session'.Own := by
  have hsubscription : session'.subscribed_tenant = subscription session'.frames := by
    rw [hframes, subscription_append, htenant, h.tenant]
  refine ⟨hsubscription, ?_⟩
  rw [hframes]
  refine h.events.append fun event hevent => ?_
  rw [← hframes, ← hsubscription]
  exact hevents event hevent

theorem visible_matches {tenant : String × String} {event : CommonEvent}
    (h : visible principal tenant event = true) : event_matches_tenant event tenant.1 tenant.2 = true :=
  (Bool.and_eq_true_iff.mp h).1

/-- A frame of the second branch subscribes nobody and shows events of the tenant. -/
theorem live_frame_eq_some {tenant : String × String} {received : Received CommonEvent} {frame : Frame}
    (hframe : live_frame principal tenant received = some frame) :
    frame.tenant = none ∧ ∀ event ∈ frame.events, event_matches_tenant event tenant.1 tenant.2 = true := by
  rcases received with ⟨skipped⟩ | event
  · cases hframe
    exact ⟨rfl, fun _ hevent => by cases hevent⟩
  · rw [live_frame, Option.ite_none_right_eq_some] at hframe
    obtain ⟨hvisible, hframe⟩ := hframe
    cases hframe
    refine ⟨rfl, fun event' hevent => ?_⟩
    rw [List.mem_singleton.mp hevent]
    exact visible_matches hvisible

theorem Session.Own.receive (h : session.Own) (events : List CommonEvent) (message : Option WsMessage)
    (delivered : Bool) : (session.receive subscriptions principal events message delivered).Own := by
  cases message with
  | none => exact ⟨h.tenant, h.events⟩
  | some message =>
    cases message with
    | Close => exact ⟨h.tenant, h.events⟩
    | Other => exact h
    | Text request =>
      rcases session.receive_text subscriptions principal events request delivered with
        ⟨sub, -, -, hreceive⟩ | ⟨-, code, message, hreceive⟩
      · rw [hreceive]
        refine h.append rfl rfl fun event hevent => ⟨_, rfl, ?_⟩
        exact visible_matches (List.mem_filter.mp hevent).2
      · rw [hreceive]
        exact h.append rfl rfl fun _ hevent => by cases hevent

theorem Session.Own.forward (h : session.Own) {events_tx : Sender CommonEvent} {delivered : Bool}
    {session' : Session} (hforward : session.forward principal events_tx delivered = some session') :
    session'.Own := by
  obtain ⟨tenant, received, htenant, -, hkept, hframes⟩ := Session.forward_eq_some hforward
  cases hframe : live_frame principal tenant received with
  | none =>
    rw [hframe, Option.toList_none, List.append_nil] at hframes
    exact ⟨by rw [hkept, hframes]; exact h.tenant, by rw [hframes]; exact h.events⟩
  | some frame =>
    rw [hframe, Option.toList_some] at hframes
    obtain ⟨hquiet, hevents⟩ := live_frame_eq_some hframe
    refine h.append hframes (by rw [hkept, hquiet]; rfl) fun event hevent => ⟨tenant, ?_, hevents event hevent⟩
    rw [hkept, htenant]

end Sessions

section Runs

variable {subscriptions : Nat} {principal : Principal} {live live' : Live}

theorem own_step {op : LiveOp} (hstep : Live.Step subscriptions principal live op live')
    (h : live.session.Own) : live'.session.Own := by
  cases hstep with
  | service hstep => exact h
  | receive message delivered hopen hfree => exact h.receive ..
  | forward delivered hopen hforward => exact h.forward hforward

/-- A connection never shows a tenant's event to a client that is subscribed to another
one: whatever the tasks publish meanwhile and however often the client subscribes, an
event in a frame belongs to the tenant of the last subscription up to that frame. -/
theorem connection_shows_own_events {stream : EventStream} {ops : List LiveOp}
    (hrun : Run (Live.Step subscriptions principal) (.connect stream) ops live) :
    OwnEvents live.session.frames := by
  have hstart : (Live.connect stream).session.Own := by
    refine ⟨rfl, fun before frame after hsplit => ?_⟩
    cases before <;> cases hsplit
  exact (hrun.invariant (fun _ _ _ h hstep => own_step hstep h) hstart).events

/-- The operations leave the client subscribed to what it is. -/
def KeepsSubscription (subscriptions : Nat) (ops : List LiveOp) : Prop :=
  ∀ request delivered, .receive (some (.Text request)) delivered ∈ ops → subscribes subscriptions request = false

/-- What a session subscribed to `tenant` has done since it stood at the number `start` and
had handed out `frames`: its live frames are what it makes of a full account of the events
sent meanwhile, in their order. -/
structure Serves (principal : Principal) (tenant : String × String) (start : Nat) (frames : List Frame)
    (live : Live) (outcomes : List (Received CommonEvent)) : Prop where
  subscribed : live.session.subscribed_tenant = some tenant
  follows : Follows live.stream.events_tx start live.session.events outcomes
  handed : ∃ added, live.session.frames = frames ++ added ∧
    added.filter Frame.IsLive = outcomes.filterMap (live_frame principal tenant)

variable {tenant : String × String} {start : Nat} {frames : List Frame} {outcomes : List (Received CommonEvent)}

theorem Serves.service (h : Serves principal tenant start frames live outcomes) {op : StreamOp}
    {stream : EventStream} (hstep : EventStream.Step live.stream op stream) :
    Serves principal tenant start frames { live with stream } outcomes :=
  ⟨h.subscribed, EventStream.follows_step hstep h.follows, h.handed⟩

theorem Serves.receive (h : Serves principal tenant start frames live outcomes) {message : Option WsMessage}
    {delivered : Bool}
    (hquiet : ∀ request, message = some (.Text request) → subscribes subscriptions request = false) :
    Serves principal tenant start frames { live with
      session := live.session.receive subscriptions principal live.stream.events message delivered } outcomes := by
  cases message with
  | none => exact ⟨h.subscribed, h.follows, h.handed⟩
  | some message =>
    cases message with
    | Close => exact ⟨h.subscribed, h.follows, h.handed⟩
    | Other => exact h
    | Text request =>
      rcases live.session.receive_text subscriptions principal live.stream.events request
        delivered with ⟨sub, -, haccepted, -⟩ | ⟨-, code, message, hreceive⟩
      · rw [hquiet request rfl] at haccepted
        cases haccepted
      · rw [hreceive]
        obtain ⟨added, hframes, hadded⟩ := h.handed
        refine ⟨h.subscribed, h.follows, added ++ [.error code message], ?_, ?_⟩
        · rw [← List.append_assoc, ← hframes]
        · rw [List.filter_append, hadded]
          exact List.append_nil _

theorem live_frames_are_live {received : Received CommonEvent} :
    (live_frame principal tenant received).toList.filter Frame.IsLive =
      (live_frame principal tenant received).toList := by
  rcases received with ⟨skipped⟩ | event
  · rfl
  · rw [live_frame]
    split <;> rfl

theorem Serves.forward (h : Serves principal tenant start frames live outcomes) {delivered : Bool}
    {session : Session} (hforward : live.session.forward principal live.stream.events_tx delivered = some session) :
    ∃ received, Serves principal tenant start frames { live with session } (outcomes ++ [received]) := by
  obtain ⟨tenant', received, htenant, hrecv, hkept, hframes⟩ := Session.forward_eq_some hforward
  obtain rfl : tenant = tenant' := Option.some.inj (h.subscribed.symm.trans htenant)
  obtain ⟨added, hadded, hlive⟩ := h.handed
  refine ⟨received, hkept.trans h.subscribed, h.follows.recv hrecv,
    added ++ (live_frame principal tenant received).toList, ?_, ?_⟩
  · rw [← List.append_assoc, ← hadded]
    exact hframes
  · rw [List.filter_append, hlive, live_frames_are_live, List.filterMap_append]
    cases hframe : live_frame principal tenant received with
    | none => rw [List.filterMap_cons_none hframe]; rfl
    | some frame => rw [List.filterMap_cons_some hframe]; rfl

theorem Serves.step (h : Serves principal tenant start frames live outcomes) {op : LiveOp}
    (hquiet : ∀ request delivered, op = .receive (some (.Text request)) delivered →
      subscribes subscriptions request = false)
    (hstep : Live.Step subscriptions principal live op live') :
    ∃ outcomes, Serves principal tenant start frames live' outcomes := by
  cases hstep with
  | service hstep => exact ⟨outcomes, h.service hstep⟩
  | receive message delivered hopen hfree =>
    refine ⟨outcomes, h.receive fun request hmessage => hquiet request delivered ?_⟩
    rw [hmessage]
  | forward delivered hopen hforward =>
    obtain ⟨received, hserves⟩ := h.forward hforward
    exact ⟨_, hserves⟩

theorem Serves.run {ops : List LiveOp} (hrun : Run (Live.Step subscriptions principal) live ops live')
    (hquiet : KeepsSubscription subscriptions ops)
    (h : Serves principal tenant start frames live outcomes) :
    ∃ outcomes, Serves principal tenant start frames live' outcomes := by
  refine hrun.invariant_of_mem (fun live op live' hmem
    (hserves : ∃ outcomes, Serves principal tenant start frames live outcomes) hstep => ?_) ⟨outcomes, h⟩
  obtain ⟨outcomes, h⟩ := hserves
  exact h.step (fun request delivered hop => hquiet request delivered (hop ▸ hmem)) hstep

/-- The events among the frames of the second branch. -/
def shown (frames : List Frame) : List CommonEvent :=
  (frames.filter Frame.IsLive).flatMap Frame.events

/-- How many events the frames say were skipped. -/
def reported : List Frame → Nat
  | [] => 0
  | frame :: frames => frame.skipped + reported frames

theorem live_frames_ok (tenant : String × String) (event : CommonEvent) (outcomes : List (Received CommonEvent)) :
    (.ok event :: outcomes).filterMap (live_frame principal tenant) =
      (if visible principal tenant event then [.event event] else []) ++
        outcomes.filterMap (live_frame principal tenant) := by
  rw [List.filterMap_cons, live_frame]
  cases visible principal tenant event <;> rfl

theorem live_frames_shown (tenant : String × String) (outcomes : List (Received CommonEvent)) :
    (outcomes.filterMap (live_frame principal tenant)).flatMap Frame.events =
      (values outcomes).filter (visible principal tenant) := by
  induction outcomes with
  | nil => rfl
  | cons received outcomes ih =>
    rcases received with ⟨⟨skipped⟩⟩ | event
    · exact ih
    · have hvalues : values (.ok event :: outcomes) = event :: values outcomes := rfl
      rw [live_frames_ok, List.flatMap_append, ih, hvalues, List.filter_cons]
      cases visible principal tenant event <;> rfl

theorem reported_live (frames : List Frame) : reported (frames.filter Frame.IsLive) = reported frames := by
  induction frames with
  | nil => rfl
  | cons frame frames ih =>
    rw [reported, ← ih]
    cases frame with
    | event event => rfl
    | events_lagged skipped => rfl
    | subscribed project_id company_id topics events => exact (Nat.zero_add _).symm
    | error code message => exact (Nat.zero_add _).symm

theorem live_frames_reported (tenant : String × String) (outcomes : List (Received CommonEvent)) :
    reported (outcomes.filterMap (live_frame principal tenant)) = skipped outcomes := by
  induction outcomes with
  | nil => rfl
  | cons received outcomes ih =>
    rcases received with ⟨⟨missed⟩⟩ | event
    · exact congrArg (missed + ·) ih
    · have hnone : skipped (.ok event :: outcomes) = skipped outcomes := Nat.zero_add _
      rw [live_frames_ok, hnone, ← ih]
      cases visible principal tenant event with
      | false => rfl
      | true => exact Nat.zero_add _

/-- What a session has shown is the tenant's share of a piece of what was sent. -/
theorem Serves.shown (h : Serves principal tenant start frames live outcomes) :
    ∃ added, live.session.frames = frames ++ added ∧
      shown added = (values outcomes).filter (visible principal tenant) ∧ reported added = skipped outcomes := by
  obtain ⟨added, hframes, hlive⟩ := h.handed
  refine ⟨added, hframes, ?_, ?_⟩
  · rw [routes.shown, hlive, live_frames_shown]
  · rw [← reported_live, hlive, live_frames_reported]

theorem Session.receive_events (session : Session) (events : List CommonEvent) (message : Option WsMessage)
    (delivered : Bool) :
    (session.receive subscriptions principal events message delivered).events = session.events := by
  rcases message with _ | request | _ | _
  · rfl
  · rfl
  · rfl
  · rfl

/-- The receiver of a session never runs ahead of the broadcast. -/
theorem bounded_step {op : LiveOp} (hstep : Live.Step subscriptions principal live op live')
    (h : live.session.events.next ≤ live.stream.events_tx.sent.length) :
    live'.session.events.next ≤ live'.stream.events_tx.sent.length := by
  cases hstep with
  | service hstep => exact (EventStream.follows_step hstep (.unasked h)).bounded
  | receive message delivered hopen hfree =>
    rw [Session.receive_events]
    exact h
  | forward delivered hopen hforward =>
    obtain ⟨_, received, -, hrecv, -, -⟩ := Session.forward_eq_some hforward
    exact ((Follows.unasked h).recv hrecv).bounded

/-- While a client stays subscribed, the events that it is shown are its tenant's share of
what the broadcast has sent, in their order and each once, and no more of them are missing
than the client was told were skipped. -/
theorem live_frames_account {stream : EventStream} {ops ops' : List LiveOp}
    (hbefore : Run (Live.Step subscriptions principal) (.connect stream) ops live)
    (hsubscribed : live.session.subscribed_tenant = some tenant)
    (hrun : Run (Live.Step subscriptions principal) live ops' live')
    (hquiet : KeepsSubscription subscriptions ops') :
    let sent := (live'.stream.events_tx.sent.take live'.session.events.next).drop live.session.events.next
    let share := sent.filter fun event => event_matches_tenant event tenant.1 tenant.2
    ∃ added, live'.session.frames = live.session.frames ++ added ∧
      (shown added).Sublist share ∧ share.length ≤ (shown added).length + reported added := by
  intro sent share
  have hbounded : live.session.events.next ≤ live.stream.events_tx.sent.length :=
    hbefore.invariant (fun _ _ _ h hstep => bounded_step hstep h) (Nat.le_refl _)
  have hserves : Serves principal tenant live.session.events.next live.session.frames live [] :=
    ⟨hsubscribed, .unasked hbounded, [], (List.append_nil _).symm, rfl⟩
  obtain ⟨outcomes, hserves'⟩ := hserves.run hrun hquiet
  obtain ⟨added, hframes, hshown, hreported⟩ := hserves'.shown
  have hvisible : visible principal tenant = fun event => event_matches_tenant event tenant.1 tenant.2 :=
    funext fun event => Bool.and_true _
  have hcovers : Covers outcomes sent := hserves'.follows.covers
  refine ⟨added, hframes, ?_, ?_⟩
  · rw [hshown, hvisible]
    exact hcovers.values_sublist.filter _
  · rw [hshown, hvisible, hreported]
    exact hcovers.length_filter_le _

/-- Before its first subscription a session takes nothing from the broadcast. -/
theorem waiting_step {rx : Receiver} {op : LiveOp} (hstep : Live.Step subscriptions principal live op live')
    (h : live.session.subscribed_tenant = none → live.session.events = rx)
    (hnone : live'.session.subscribed_tenant = none) : live'.session.events = rx := by
  cases hstep with
  | service hstep => exact h hnone
  | receive message delivered hopen hfree =>
    rw [Session.receive_events]
    refine h ?_
    rcases message with _ | request | _ | _
    · exact hnone
    · exact (Option.or_eq_none_iff.mp hnone).2
    · exact hnone
    · exact hnone
  | forward delivered hopen hforward =>
    obtain ⟨tenant, received, htenant, -, hkept, -⟩ := Session.forward_eq_some hforward
    rw [hkept, htenant] at hnone
    cases hnone

theorem since_step {stream : EventStream} {op : LiveOp} (hstep : Live.Step subscriptions principal live op live')
    (h : EventStream.Since stream live.stream) : EventStream.Since stream live'.stream := by
  cases hstep with
  | service hstep => exact h.step hstep
  | receive message delivered hopen hfree => exact h
  | forward delivered hopen hforward => exact h

theorem since_run {stream : EventStream} {ops : List LiveOp}
    (hrun : Run (Live.Step subscriptions principal) live ops live')
    (h : EventStream.Since stream live.stream) : EventStream.Since stream live'.stream :=
  hrun.invariant (fun _ _ _ h hstep => since_step hstep h) h

theorem frame_of_shown {frames : List Frame} {event : CommonEvent} (h : event ∈ shown frames) :
    .event event ∈ frames := by
  obtain ⟨frame, hframe, hevent⟩ := List.mem_flatMap.mp h
  obtain ⟨hmem, hlive⟩ := List.mem_filter.mp hframe
  cases frame with
  | event event' => rwa [List.mem_singleton.mp hevent]
  | _ => cases hevent <;> cases hlive

theorem lagged_of_reported {frames : List Frame} (h : reported frames ≠ 0) :
    ∃ skipped, .events_lagged skipped ∈ frames := by
  induction frames with
  | nil => exact absurd rfl h
  | cons frame frames ih =>
    cases frame with
    | events_lagged skipped => exact ⟨skipped, List.mem_cons_self⟩
    | _ =>
      obtain ⟨skipped, hmem⟩ := ih fun hnone => h ((Nat.zero_add _).trans hnone)
      exact ⟨skipped, List.mem_cons_of_mem _ hmem⟩

/-- A client that subscribes once misses no event of its tenant. Each event that is stored
in the end came with the answer to the subscription, or in a frame of its own, or the client
was told that it was skipped, or it is still to come. The exception are events that were
sent before the client connected and had not been stored by then. -/
theorem subscribed_client_misses_nothing {stream : EventStream} {mid mid' : Live} {ops ops' : List LiveOp}
    {sub : SubscribeRequest} {delivered : Bool}
    (hbefore : Run (Live.Step subscriptions principal) (.connect stream) ops mid)
    (hfirst : mid.session.subscribed_tenant = none)
    (hsubscribe : Live.Step subscriptions principal mid (.receive (some (.Text (.ok sub))) delivered) mid')
    (haccepted : subscribes subscriptions (.ok sub) = true)
    (hafter : Run (Live.Step subscriptions principal) mid' ops' live)
    (hquiet : KeepsSubscription subscriptions ops') :
    ∀ event ∈ live.stream.events, event_matches_tenant event sub.project_id sub.company_id = true →
      (∃ events, .subscribed sub.project_id sub.company_id sub.topics events ∈ live.session.frames ∧
        event ∈ events) ∨
      .event event ∈ live.session.frames ∨
      (∃ skipped, .events_lagged skipped ∈ live.session.frames) ∨
      event ∈ live.stream.sent_since live.session.events.next ∨
      event ∈ stream.in_flight := by
  intro event hstored hmatches
  have hvisible : visible principal (sub.project_id, sub.company_id) event = true :=
    (Bool.and_true _).trans hmatches
  have hstart : mid.session.events = stream.events_tx.subscribe :=
    hbefore.invariant (fun _ _ _ h hstep => waiting_step hstep h) (fun _ => rfl) hfirst
  have hsince : EventStream.Since stream mid.stream := since_run hbefore (.refl stream)
  have hsince' : EventStream.Since mid.stream live.stream :=
    since_run hafter (since_step hsubscribe (.refl mid.stream))
  have hall : EventStream.Since stream live.stream := since_run hafter (since_step hsubscribe hsince)
  -- what the session has done since the subscription, which it answered with the stored events
  obtain ⟨hsnapshot, outcomes, hserves⟩ : (.subscribed sub.project_id sub.company_id sub.topics
      (mid.stream.events.filter (visible principal (sub.project_id, sub.company_id)))) ∈ mid'.session.frames ∧
      ∃ outcomes, Serves principal (sub.project_id, sub.company_id) stream.events_tx.sent.length
        mid'.session.frames live outcomes := by
    cases hsubscribe with
    | receive message delivered hopen hfree =>
      obtain ⟨sub', hsub, -, hreceive⟩ | ⟨hrefused, -⟩ := mid.session.receive_text
        subscriptions principal mid.stream.events (.ok sub) delivered
      · cases hsub
        refine ⟨?_, Serves.run hafter hquiet (⟨?_, ?_, [], (List.append_nil _).symm, rfl⟩ :
          Serves _ _ _ _ _ [])⟩
        · rw [hreceive]
          exact List.mem_append_right _ (List.mem_singleton_self _)
        · rw [hreceive]
        · rw [Session.receive_events, hstart]
          exact @Follows.unasked _ _ stream.events_tx.subscribe hsince.sent.length_le
      · rw [haccepted] at hrefused
        cases hrefused
  obtain ⟨added, hframes, hshown, hreported⟩ := hserves.shown
  have hadded : added ⊆ live.session.frames := hframes ▸ List.subset_append_right _ _
  by_cases hold : event ∈ mid.stream.events
  · refine Or.inl ⟨_, ?_, List.mem_filter.mpr ⟨hold, hvisible⟩⟩
    exact hframes ▸ List.mem_append_left _ hsnapshot
  · refine Or.inr ?_
    by_cases hwaited : event ∈ stream.in_flight
    · exact Or.inr (Or.inr (Or.inr hwaited))
    · have hsent : event ∈ live.stream.sent_since stream.events_tx.sent.length := by
        rcases hsince'.mem_events hstored with hmid | hflight | hsent
        · exact absurd hmid hold
        · rcases hsince.mem_in_flight hflight with hold' | hsent
          · exact absurd hold' hwaited
          · exact hsince'.subset_sent_since _ hsent
        · exact hsince.sent_since_subset hsent
      rw [EventStream.sent_since, hserves.follows.sent_eq] at hsent
      rcases List.mem_append.mp hsent with htaken | hcoming
      · by_cases hlagged : skipped outcomes = 0
        · have hvalues : event ∈ values outcomes := hserves.follows.covers.values_eq hlagged ▸ htaken
          have hmem : event ∈ shown added := hshown ▸ List.mem_filter.mpr ⟨hvalues, hvisible⟩
          exact Or.inl (hadded (frame_of_shown hmem))
        · obtain ⟨missed, hmissed⟩ := lagged_of_reported (hreported ▸ hlagged)
          exact Or.inr (Or.inl ⟨missed, hadded hmissed⟩)
      · exact Or.inr (Or.inr (Or.inl hcoming))

end Runs

namespace sample

def principal : Principal where
  api_key_id := "m2m_internal"
  scopes := ["admin:*"]
  project_id := none
  company_id := none

def note (second : Nat) (company_id : String) : CommonEvent :=
  eventbus.new_event (state.sample.ctx second "n") 0 "conversation.dirty" "acme" company_id none none none none .null

def sub : SubscribeRequest where
  kind := "subscribe"
  project_id := "acme"
  company_id := "company_a"
  topics := []

/-- An event is on its way into the store. -/
def stream : EventStream where
  events := []
  locked := false
  in_flight := [note 1 "company_a"]
  events_tx := { capacity := 2, sent := [note 1 "company_a"] }

/-- The client has subscribed, and the event was not stored yet. -/
def subscribed : Live where
  stream
  session := {
    events := ⟨1⟩
    subscribed_tenant := some ("acme", "company_a")
    frames := [.subscribed "acme" "company_a" [] []]
    closed := false }

def subscribe_op : LiveOp := .receive (some (.Text (.ok sub))) true

theorem subscribing : Live.Step 10 principal (.connect stream) subscribe_op subscribed :=
  .receive (some (.Text (.ok sub))) true rfl fun _ => rfl

/-- Meanwhile three more events are sent, one of them of another company. -/
def ops : List LiveOp :=
  [.service (.store_event (note 1 "company_a")), .service (.send_event (note 2 "company_a")),
    .service (.send_event (note 3 "company_b")), .service (.store_event (note 2 "company_a")),
    .service (.send_event (note 4 "company_a")), .forward true, .forward true, .forward true]

/-- The channel keeps two events only, so that the client learns of one that it has missed. -/
def served : Live where
  stream := {
    events := [note 1 "company_a", note 2 "company_a"]
    locked := false
    in_flight := [note 3 "company_b", note 4 "company_a"]
    events_tx := {
      capacity := 2
      sent := [note 1 "company_a", note 2 "company_a", note 3 "company_b", note 4 "company_a"] } }
  session := {
    events := ⟨4⟩
    subscribed_tenant := some ("acme", "company_a")
    frames := [.subscribed "acme" "company_a" [] [], .events_lagged 1, .event (note 4 "company_a")]
    closed := false }

theorem serving : Run (Live.Step 10 principal) subscribed ops served :=
  .cons (.service (@EventStream.Step.store_event _ [] [] _ rfl rfl)) <|
  .cons (.service (.send_event _)) <|
  .cons (.service (.send_event _)) <|
  .cons (.service (@EventStream.Step.store_event _ [] [_] _ rfl rfl)) <|
  .cons (.service (.send_event _)) <|
  .cons (.forward true rfl rfl) <|
  .cons (.forward true rfl rfl) <|
  .cons (.forward true rfl rfl) <|
  .nil _

theorem ops_quiet : KeepsSubscription 10 ops := by
  intro request delivered hmem
  simp [ops] at hmem

end sample

open sample in
theorem connection_shows_own_events_served : OwnEvents served.session.frames :=
  connection_shows_own_events (show Run _ (.connect stream) _ _ from .cons subscribing serving)

open sample in
theorem live_frames_account_served :
    let sent := (served.stream.events_tx.sent.take 4).drop 1
    let share := sent.filter fun event => event_matches_tenant event "acme" "company_a"
    ∃ added, served.session.frames = subscribed.session.frames ++ added ∧
      (shown added).Sublist share ∧ share.length ≤ (shown added).length + reported added :=
  live_frames_account (.cons subscribing (.nil _)) rfl serving ops_quiet

open sample in
theorem subscribed_client_misses_nothing_served :
    (∃ events, .subscribed "acme" "company_a" [] events ∈ served.session.frames ∧
      note 2 "company_a" ∈ events) ∨
    .event (note 2 "company_a") ∈ served.session.frames ∨
    (∃ skipped, .events_lagged skipped ∈ served.session.frames) ∨
    note 2 "company_a" ∈ served.stream.sent_since 4 ∨
    note 2 "company_a" ∈ stream.in_flight :=
  subscribed_client_misses_nothing (Run.nil (Live.connect stream)) rfl subscribing rfl serving ops_quiet
    (note 2 "company_a") (List.mem_cons_of_mem _ List.mem_cons_self) rfl

end routes

end rustzap
