import Wirelog.Proofs.JourneyLaws

/-! Calls for one address under two names. What a call does depends on the addresses of the host, the
port and the limits; the name itself only gets into the words of a failure. So a host that literally
is an address may be written in any way that stands for this address: the same attempts are made, at
the same moments, and they end in the same way. -/
namespace Wirelog.SameAddress
open Forward JourneyLaws

/-! ## Attempts -/

/-- Attempts that differ in the words of a failure at most. -/
inductive SameAttempt : Attempt → Attempt → Prop where
  | connected : SameAttempt .connected .connected
  | missed (f g : Failure) : SameAttempt (.missed f) (.missed g)
  | stopped (why : Stop) : SameAttempt (.stopped why) (.stopped why)

/-- Calls that differ in the name of the host at most. -/
structure SameCall (c e : Call) : Prop where
  port : e.port = c.port
  rounds : e.rounds = c.rounds
  limit : e.limit = c.limit

/-- Rows of attempts that differ in the words of the last failure at most. -/
structure SameDialing (d e : Dialing) : Prop where
  clock : e.clock = d.clock
  tried : e.tried = d.tried

/-- Ends that differ in the words of a failure at most. -/
inductive SameEnd {α : Type} : Except Stop α → Except Stop α → Prop where
  | same (r : Except Stop α) : SameEnd r r
  | failed (f g : Failure) : SameEnd (.error (.failed f)) (.error (.failed g))

variable {c e : Call}

theorem attempt_same (same : SameCall c e) (net : Network) (clock : Clock) (index : Nat)
    (ip : Net.Ip) :
    (e.attempt net clock index ip).1 = (c.attempt net clock index ip).1 ∧
      SameAttempt (c.attempt net clock index ip).2 (e.attempt net clock index ip).2 := by
  simp only [Call.attempt, same.port, same.limit]
  rcases clock.await c.limit .connect (net.connect ip c.port index) with ⟨after, awaited⟩
  cases awaited with
  | came result =>
    cases result with
    | ok => exact ⟨rfl, .connected⟩
    | error reason => exact ⟨rfl, .missed _ _⟩
  | expired wait => cases wait <;> exact ⟨rfl, by constructor⟩
  | never => exact ⟨rfl, .stopped _⟩

theorem round_same (same : SameCall c e) (net : Network) (addresses : List Net.Ip) {d f : Dialing}
    (alike : SameDialing d f) :
    SameDialing (Dialing.round c net addresses d).1 (Dialing.round e net addresses f).1 ∧
      (Dialing.round e net addresses f).2 = (Dialing.round c net addresses d).2 := by
  induction addresses generalizing d f with
  | nil => exact ⟨alike, rfl⟩
  | cons ip rest ih =>
    -- An attempt is told how many there were before it, which is the same in both rows.
    obtain ⟨clock, attempt⟩ := attempt_same same net d.clock d.tried.length ip
    rw [Dialing.round, Dialing.round, alike.clock, alike.tried]
    revert clock attempt
    rcases c.attempt net d.clock d.tried.length ip with ⟨after, a⟩
    rcases e.attempt net d.clock d.tried.length ip with ⟨after', b⟩
    rintro rfl attempt
    cases attempt with
    | connected => exact ⟨⟨rfl, rfl⟩, rfl⟩
    | missed => exact ih ⟨rfl, rfl⟩
    | stopped => exact ⟨⟨rfl, rfl⟩, rfl⟩

theorem run_same (same : SameCall c e) (net : Network) (addresses : List Net.Ip) (n : Nat)
    {d f : Dialing} (alike : SameDialing d f) :
    SameDialing (Dialing.run c net addresses n d).1 (Dialing.run e net addresses n f).1 ∧
      SameEnd (Dialing.run c net addresses n d).2 (Dialing.run e net addresses n f).2 := by
  induction n generalizing d f with
  | zero =>
    -- The last failure counts, and only here its words come out.
    exact ⟨alike, .failed _ _⟩
  | succ n ih =>
    obtain ⟨after, result⟩ := round_same same net addresses alike
    rw [Dialing.run, Dialing.run]
    revert after result
    rcases Dialing.round c net addresses d with ⟨d', a⟩
    rcases Dialing.round e net addresses f with ⟨f', b⟩
    rintro after rfl
    cases b with
    | some r => exact ⟨after, .same r⟩
    | none => exact ih after

theorem dial_same (same : SameCall c e) (net : Network) (clock : Clock) (addresses : List Net.Ip) :
    SameDialing (c.dial net clock addresses).1 (e.dial net clock addresses).1 ∧
      SameEnd (c.dial net clock addresses).2 (e.dial net clock addresses).2 := by
  rw [Call.dial, Call.dial, same.rounds]
  exact run_same same net addresses c.rounds ⟨rfl, rfl⟩

/-! ## Connecting -/

private theorem dialed_same (port : Nat) (j : Journey) {x y : Dialing × Except Stop Net.Ip}
    (alike : SameDialing x.1 y.1) (result : SameEnd x.2 y.2) :
    (dialed port j y).2 = (dialed port j x).2 ∧
      SameEnd (dialed port j x).1 (dialed port j y).1 := by
  rcases x with ⟨d, r⟩
  rcases y with ⟨f, t⟩
  have clock : f.clock = d.clock := alike.clock
  have tried : f.tried = d.tried := alike.tried
  simp only [dialed, clock, tried]
  cases result with
  | same => exact ⟨rfl, .same _⟩
  | failed first second => exact ⟨rfl, .failed first second⟩

/-- A host that is an address is called at this address. -/
private theorem connect_literal {host : String} {ip : Net.Ip} (literal : Resolution.literal? host = some ip)
    (net : Network) (o : Options) (port : Nat) (j : Journey) :
    (Send.connect net o host port).run.run j =
      dialed port j (Call.dial
        { host, port, rounds := Forward.rounds o.retries, limit := o.connectLimit }
        net j.clock [ip]) := by
  have known : j.book.answer? j.clock.now host port =
      some { addresses := [ip], port, cached := true } := by
    rw [Resolution.Book.answer?, literal]
  have found : (Send.resolve net host port).run.run j =
      (.ok { addresses := [ip], port, cached := true }, j) := by
    rw [Send.resolve, run_get, known]
    rfl
  exact run_connect found o

/-- Two names of one address. -/
theorem connect_same {a b : String} {ip : Net.Ip} (first : Resolution.literal? a = some ip)
    (second : Resolution.literal? b = some ip) (net : Network) (o : Options) (port : Nat) (j : Journey) :
    ((Send.connect net o b port).run.run j).2 = ((Send.connect net o a port).run.run j).2 ∧
      SameEnd ((Send.connect net o a port).run.run j).1
        ((Send.connect net o b port).run.run j).1 := by
  rw [connect_literal first, connect_literal second]
  obtain ⟨alike, result⟩ := dial_same
    (show SameCall ⟨a, port, Forward.rounds o.retries, o.connectLimit⟩
      ⟨b, port, Forward.rounds o.retries, o.connectLimit⟩ from ⟨rfl, rfl, rfl⟩) net j.clock [ip]
  exact dialed_same port j alike result

end Wirelog.SameAddress
