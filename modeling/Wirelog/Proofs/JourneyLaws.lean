import Wirelog.Forward.Dispatch

/-! What a journey does to the record on its way. Each step either leads on or stops, and what holds
in either case is said of both at once, so that a failure at any point comes with what was recorded
before it. Making a connection records nothing. From then on three events follow in a fixed order,
and what was measured on the way is not touched any more. -/
namespace Wirelog.JourneyLaws
open Recording Forward

variable {α β : Type}

/-- From a journey, a step leads on with a result and a journey in `next`, or it stops in a journey
in `stop`. -/
def Leads (x : Send α) (j : Journey) (next : α → Journey → Prop) (stop : Stop → Journey → Prop) :
    Prop :=
  match x.run.run j with
  | (.ok a, k) => next a k
  | (.error why, k) => stop why k

section Steps

variable {next : α → Journey → Prop} {stop : Stop → Journey → Prop} {j : Journey}

theorem leads_pure {a : α} (here : next a j) : Leads (pure a) j next stop := here

theorem leads_throw {why : Stop} (here : stop why j) : Leads (throw why : Send α) j next stop :=
  here

theorem leads_get {next : Journey → Journey → Prop} (here : next j j) :
    Leads get j next stop := here

theorem leads_set {next : Unit → Journey → Prop} {k : Journey} (here : next () k) :
    Leads (set k) j next stop := here

theorem leads_modify {next : Unit → Journey → Prop} {f : Journey → Journey}
    (here : next () (f j)) : Leads (modify f) j next stop := here

theorem run_bind (x : Send β) (f : β → Send α) (j : Journey) :
    (x >>= f).run.run j =
      match x.run.run j with
      | (.ok b, k) => (f b).run.run k
      | (.error why, k) => (.error why, k) := by
  change (match x.run.run j with | (a, k) => ExceptT.bindCont f a k) = _
  cases x.run.run j with
  | mk result k => cases result <;> rfl

theorem run_get (f : Journey → Send α) (j : Journey) :
    (get >>= f).run.run j = (f j).run.run j := rfl

theorem run_wait (limit : Option Time.Span) (w : Wait) (reply : Reply α)
    (j : Journey) : (Send.wait limit w reply).run.run j =
      match j.clock.await limit w reply with
      | (clock, .came result) => (.ok (result, clock.elapsed - j.clock.elapsed), { j with clock })
      | (clock, .expired w) => (.error (.failed (.timeout w)), { j with clock })
      | (clock, .never) => (.error .never, { j with clock }) := by
  rw [Send.wait, run_get]
  rcases j.clock.await limit w reply with ⟨clock, awaited⟩
  cases awaited <;> rfl

theorem leads_bind {x : Send β} {f : β → Send α}
    (first : Leads x j (fun b k => Leads (f b) k next stop) stop) :
    Leads (x >>= f) j next stop := by
  unfold Leads at first ⊢
  rw [run_bind]
  revert first
  cases x.run.run j with
  | mk result k => cases result <;> exact id

theorem leads_mono {x : Send α} {next' : α → Journey → Prop} {stop' : Stop → Journey → Prop}
    (leads : Leads x j next stop) (on : ∀ a k, next a k → next' a k)
    (off : ∀ why k, stop why k → stop' why k) : Leads x j next' stop' := by
  unfold Leads at leads ⊢
  split at leads
  · exact on _ _ leads
  · exact off _ _ leads

end Steps

/-! ## Steps that record nothing -/

/-- Only the clock and the addresses may differ. -/
structure Quiet (j k : Journey) : Prop where
  passage : k.passage = j.passage
  timings : k.timings = j.timings

/-- A step that records and measures nothing, whether it leads on or stops. -/
structure Keeps (x : Send α) : Prop where
  leads : ∀ j, Leads x j (fun _ => Quiet j) (fun _ => Quiet j)

theorem keeps_lift (result : Except Failure α) : Keeps (Send.lift result) := by
  refine ⟨fun j => ?_⟩
  cases result <;> exact ⟨rfl, rfl⟩

theorem keeps_wait (limit : Option Time.Span) (w : Wait) (r : Reply α) :
    Keeps (Send.wait limit w r) := by
  refine ⟨fun j => leads_bind (leads_get ?_)⟩
  rcases j.clock.await limit w r with ⟨clock, awaited⟩
  refine leads_bind (leads_set ?_)
  cases awaited <;> exact ⟨rfl, rfl⟩

/-- A step that records nothing, though it may measure something. -/
structure Unrecorded (x : Send α) : Prop where
  leads : ∀ j, Leads x j (fun _ k => k.passage = j.passage) (fun _ k => k.passage = j.passage)

theorem unrecorded_pure (a : α) : Unrecorded (pure a : Send α) :=
  ⟨fun _ => rfl⟩

theorem unrecorded_throw (why : Stop) : Unrecorded (throw why : Send α) :=
  ⟨fun _ => rfl⟩

theorem unrecorded_measure (f : Recording.Dispatch → Recording.Dispatch) :
    Unrecorded (Send.measure f) :=
  ⟨fun _ => rfl⟩

theorem unrecorded_keeps {x : Send α} (keeps : Keeps x) : Unrecorded x :=
  ⟨fun j => leads_mono (keeps.leads j) (fun _ _ quiet => quiet.passage)
    fun _ _ quiet => quiet.passage⟩

theorem unrecorded_wait (limit : Option Time.Span) (w : Wait) (r : Reply α) :
    Unrecorded (Send.wait limit w r) :=
  unrecorded_keeps (keeps_wait limit w r)

theorem unrecorded_lift (result : Except Failure α) : Unrecorded (Send.lift result) :=
  unrecorded_keeps (keeps_lift result)

theorem unrecorded_bind {x : Send β} {f : β → Send α} (first : Unrecorded x)
    (rest : ∀ b, Unrecorded (f b)) : Unrecorded (x >>= f) := by
  refine ⟨fun j => leads_bind (leads_mono (first.leads j) (fun b k same => ?_) fun _ _ => id)⟩
  rw [← same]
  exact (rest b).leads k

/-- The present journey may decide how to go on. -/
theorem unrecorded_get {f : Journey → Send α}
    (rest : ∀ j, Leads (f j) j (fun _ k => k.passage = j.passage)
      (fun _ k => k.passage = j.passage)) : Unrecorded (get >>= f) :=
  ⟨fun j => leads_bind (leads_get (rest j))⟩

/-- A change that keeps the passage may come first. -/
theorem unrecorded_set {f : Unit → Send α} {j k : Journey} (same : k.passage = j.passage)
    (rest : Unrecorded (f ())) :
    Leads (set k >>= f) j (fun _ l => l.passage = j.passage)
      (fun _ l => l.passage = j.passage) := by
  refine leads_bind (leads_set ?_)
  rw [← same]
  exact rest.leads k

theorem unrecorded_resolve (net : Network) (host : String) (port : Nat) :
    Unrecorded (Send.resolve net host port) := by
  unfold Send.resolve
  refine unrecorded_get fun j => ?_
  cases j.book.answer? j.clock.now host port with
  | some r => exact (unrecorded_pure r).leads j
  | none =>
    refine (unrecorded_bind (unrecorded_wait ..) fun ⟨result, took⟩ => ?_).leads j
    refine unrecorded_get fun k => ?_
    rcases k.book.accept k.clock.now host port result with ⟨book, r⟩
    refine unrecorded_set rfl (unrecorded_bind (unrecorded_lift r) fun r => ?_)
    exact unrecorded_bind (unrecorded_measure _) fun _ => unrecorded_pure r

theorem unrecorded_connect (net : Network) (o : Options) (host : String) (port : Nat) :
    Unrecorded (Send.connect net o host port) := by
  unfold Send.connect
  refine unrecorded_bind (unrecorded_resolve net host port) fun r => unrecorded_get fun j => ?_
  dsimp only
  rcases Call.dial _ net j.clock r.addresses with ⟨d, result⟩
  refine unrecorded_set rfl ?_
  cases result with
  | ok ip => exact unrecorded_bind (unrecorded_measure _) fun _ => unrecorded_pure _
  | error why => exact unrecorded_throw why

theorem unrecorded_tunnel (net : Network) (o : Options) (w : Wire) (host : String) (port : Nat) :
    Unrecorded (Send.tunnel net o w host port) := by
  unfold Send.tunnel
  cases net.tunnel w (tunnelRequest host port) with
  | error reason => exact unrecorded_throw _
  | ok reply =>
    refine unrecorded_bind (unrecorded_wait ..) fun ⟨transcript, took⟩ => ?_
    refine unrecorded_bind (unrecorded_lift _) fun _ => ?_
    exact unrecorded_bind (unrecorded_measure _) fun _ => unrecorded_pure _

theorem unrecorded_secure (net : Network) (o : Options) (w : Wire) (host : String) :
    Unrecorded (Send.secure net o w host) := by
  unfold Send.secure
  refine unrecorded_bind (unrecorded_wait ..) fun ⟨result, took⟩ => ?_
  cases result with
  | error reason => exact unrecorded_throw _
  | ok done =>
    refine unrecorded_bind (unrecorded_measure _) fun _ => ?_
    exact unrecorded_bind (unrecorded_measure _) fun _ => unrecorded_pure _

/-- Nothing is recorded while a connection is made. -/
theorem unrecorded_reach (net : Network) (o : Options) (r : Route) :
    Unrecorded (Send.reach net o r) := by
  unfold Send.reach
  cases o.relay with
  | some relay =>
    refine unrecorded_bind (unrecorded_connect net o _ _) fun w => ?_
    split
    · exact unrecorded_bind (unrecorded_tunnel net o w _ _) fun w => unrecorded_secure net o w _
    · exact unrecorded_pure w
  | none =>
    refine unrecorded_bind (unrecorded_connect net o _ _) fun w => ?_
    split
    · exact unrecorded_secure net o w _
    · exact unrecorded_pure w

/-! ## Connecting -/

/-- What a row of attempts makes of a journey: a connection, or a stop. -/
def dialed (port : Nat) (j : Journey) (d : Dialing × Except Stop Net.Ip) :
    Except Stop Wire × Journey :=
  let k := { j with clock := d.1.clock, tried := j.tried ++ d.1.tried }
  match d.2 with
  | .ok ip =>
    let connect := some (d.1.clock.elapsed - j.clock.elapsed)
    (.ok { address := ip, port },
      { k with timings := { k.timings with connect, server := some ip } })
  | .error why => (.error why, k)

/-- A host is called once it has addresses. -/
theorem run_connect {net : Network} {host : String} {port : Nat} {r : Resolution.Resolved}
    {j k : Journey} (resolved : (Send.resolve net host port).run.run j = (.ok r, k))
    (o : Options) : (Send.connect net o host port).run.run j = dialed port k
      (Call.dial { host, port, rounds := Forward.rounds o.retries, limit := o.connectLimit }
        net k.clock r.addresses) := by
  rw [Send.connect, run_bind, resolved]
  dsimp only
  rw [run_get, dialed]
  generalize Call.dial _ net k.clock r.addresses = d
  rcases d with ⟨d, why | ip⟩
  · rfl
  · rfl

/-! ## The record of a journey -/

/-- What is recorded of a request by the time its journey stops without a response: nothing before
there is a connection, then that it went out, then that the response started. -/
inductive Progress (request : Http.Request) (timings : Dispatch) : List Event → Prop where
  | unsent : Progress request timings []
  | sent : Progress request timings [.dispatched request timings]
  | started (wait : Time.Span) :
      Progress request timings [.dispatched request timings, .responseStarted wait]

/-- What is recorded of a request that has its response. -/
def completeRecord (request : Http.Request) (timings : Dispatch) (wait receive : Time.Span) :
    List Event :=
  [.dispatched request timings, .responseStarted wait, .responseReceived receive]

/-- A journey on which events were recorded of a passage, and times measured. -/
structure Stands (p : Passage Http.Request) (events : List Event) (timings : Dispatch)
    (j : Journey) : Prop where
  passage : j.passage = events.foldl Passage.record p
  timings : j.timings = timings

private theorem stands_quiet {p : Passage Http.Request} {events : List Event} {timings : Dispatch}
    {j k : Journey} (stands : Stands p events timings j) (quiet : Quiet j k) :
    Stands p events timings k :=
  ⟨quiet.passage.trans stands.passage, quiet.timings.trans stands.timings⟩

private theorem leads_record {p : Passage Http.Request} {events : List Event}
    {timings : Dispatch} {event : Event} {f : Unit → Send α} {j : Journey}
    {next : α → Journey → Prop} {stop : Stop → Journey → Prop} (stands : Stands p events timings j)
    (rest : ∀ k, Stands p (events ++ [event]) timings k → Leads (f ()) k next stop) :
    Leads (Send.record event >>= f) j next stop := by
  refine leads_bind (leads_modify (rest _ ⟨?_, stands.timings⟩))
  rw [List.foldl_append, ← stands.passage]
  rfl

private theorem leads_keeps {p : Passage Http.Request} {events : List Event} {timings : Dispatch}
    {x : Send β} {f : β → Send α} {j : Journey} {next : α → Journey → Prop}
    {stop : Stop → Journey → Prop} (keeps : Keeps x) (stands : Stands p events timings j)
    (rest : ∀ b k, Stands p events timings k → Leads (f b) k next stop)
    (off : ∀ why k, Stands p events timings k → stop why k) : Leads (x >>= f) j next stop :=
  leads_bind (leads_mono (keeps.leads j) (fun b k quiet => rest b k (stands_quiet stands quiet))
    fun why k quiet => off why k (stands_quiet stands quiet))

/-- Sending a request on records the events of an exchange in their order, up to where it stops. -/
theorem exchange_records (net : Network) (o : Options) (limits : Pacing.Limits) (j : Journey) :
    Leads (Send.exchange net o limits) j
      (fun _ k => ∃ wait receive, k.passage =
        (completeRecord j.passage.message k.timings wait receive).foldl Passage.record j.passage)
      (fun _ k => ∃ events, Progress j.passage.message k.timings events ∧
        k.passage = events.foldl Passage.record j.passage) := by
  unfold Send.exchange
  refine leads_bind (leads_get ?_)
  dsimp only
  have stopped {k : Journey} {events : List Event} {timings : Dispatch}
      (progress : Progress j.passage.message timings events)
      (stands : Stands j.passage events timings k) :
      ∃ events, Progress j.passage.message k.timings events ∧
        k.passage = events.foldl Passage.record j.passage :=
    ⟨events, stands.timings ▸ progress, stands.passage⟩
  refine leads_keeps (keeps_lift _) ⟨rfl, rfl⟩ (fun route k routed => ?_)
    fun _ _ => stopped .unsent
  refine leads_bind (leads_mono ((unrecorded_reach net o route).leads k) (fun w k reached => ?_)
    fun _ k reached => ⟨[], .unsent, reached.trans routed.passage⟩)
  replace reached := reached.trans routed.passage
  cases net.greet w with
  | error reason => exact leads_throw ⟨[], .unsent, reached⟩
  | ok done =>
    refine leads_bind (leads_get (leads_record ⟨reached, rfl⟩ fun k sent => ?_))
    refine leads_keeps (keeps_lift _) sent (fun target k sent => ?_) fun _ _ => stopped .sent
    refine leads_keeps (keeps_wait ..) sent (fun ⟨head, took⟩ k sent => ?_) fun _ _ => stopped .sent
    cases head with
    | error reason => exact leads_throw (stopped .sent sent)
    | ok head =>
      refine leads_record sent fun k started => ?_
      refine leads_keeps (keeps_wait ..) started (fun _ k started => ?_)
        fun _ _ => stopped (.started _)
      refine leads_keeps (keeps_wait ..) started (fun ⟨body, received⟩ k started => ?_)
        fun _ _ => stopped (.started _)
      cases body with
      | error reason => exact leads_throw (stopped (.started _) started)
      | ok body =>
        refine leads_record started fun k complete => leads_pure ⟨took, received, ?_⟩
        rw [complete.passage, complete.timings]
        rfl

/-- What is recorded when a request was sent on, and how that depends on its end. -/
theorem dispatch_records (net : Network) (o : Options) (limits : Pacing.Limits) (now : Time.Span)
    (book : Resolution.Book) (p : Passage Http.Request) :
    match dispatch net o limits now book p with
    | (.ok _, k) => ∃ wait receive,
      k.passage = (completeRecord p.message k.timings wait receive).foldl Passage.record p
    | (.error _, k) => ∃ events, Progress p.message k.timings events ∧
      k.passage = events.foldl Passage.record p := by
  have journey := exchange_records net o limits
    { clock := { started := now, limit := o.requestLimit }, book, passage := p }
  unfold Leads at journey
  unfold dispatch
  revert journey
  cases (Send.exchange net o limits).run.run _ with
  | mk result k => cases result <;> exact id

end Wirelog.JourneyLaws
