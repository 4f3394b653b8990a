import Wirelog.Proofs.GrantLaws

/-! Where the credit of a bucket goes. Whatever streams reserve of it and do not give back, they
have moved under a limit or still hold, except for the grants of streams that are dropped: nobody
gives these back. Every event is accounted for by itself, and a run by its events. -/
namespace Wirelog.CreditBalance
open Pacing Overlap GrantLaws

variable {σ : Type} (m : Machine σ) (c : Crowd σ) (d : Direction)

/-! ## Streams by their numbers -/

theorem live_iff {k : Nat} {x : Stack σ} : c.live? k = some x ↔ c.streams[k]? = some (some x) :=
  Option.join_eq_some_iff

theorem grantedTo_append (first second : List (Option (Stack σ))) :
    Crowd.grantedTo d (first ++ second) = Crowd.grantedTo d first + Crowd.grantedTo d second := by
  induction first with
  | nil => simp only [Crowd.grantedTo, List.nil_append, Nat.zero_add]
  | cons x rest ih => simp only [Crowd.grantedTo, List.cons_append, ih, Nat.add_assoc]

/-- What is granted after a stream is replaced. -/
theorem grantedTo_set {streams : List (Option (Stack σ))} {k : Nat} {old : Option (Stack σ)}
    (found : streams[k]? = some old) (new : Option (Stack σ)) :
    Crowd.grantedTo d (streams.set k new) + Crowd.granted d old =
      Crowd.grantedTo d streams + Crowd.granted d new := by
  induction streams generalizing k with
  | nil => cases found
  | cons head rest ih =>
    cases k with
    | zero =>
      cases found
      simp only [List.set_cons_zero, Crowd.grantedTo]
      omega
    | succ k =>
      have tail := ih found
      simp only [List.set_cons_succ, Crowd.grantedTo]
      omega

theorem held_set {k : Nat} {old : Option (Stack σ)} (found : c.streams[k]? = some old)
    (new : Option (Stack σ)) (line : Line) :
    ({ line, streams := c.streams.set k new } : Crowd σ).held d + Crowd.granted d old =
      c.held d + Crowd.granted d new :=
  grantedTo_set d found new

/-- A poll of a stream that is there replaces it and the line. -/
theorem after_poll {k : Nat} {x : Stack σ} (live : c.live? k = some x) (now : Rat) (ask : Ask) :
    c.after m (.poll k now ask) =
      { line := (x.poll m c.line now ask).2.1
        streams := c.streams.set k (some (x.poll m c.line now ask).1) } := by
  simp only [Crowd.after, live]

theorem after_poll_gone {k : Nat} (gone : c.live? k = none) (now : Rat) (ask : Ask) :
    c.after m (.poll k now ask) = c := by
  simp only [Crowd.after, gone]

/-! ## One event -/

/-- The calls of an event are all that happens to a bucket. -/
theorem bucket_after (e : Event σ) :
    (c.after m e).line.bucket d = replay (c.line.bucket d) (c.callsOf m d e) := by
  cases e with
  | come below => rfl
  | drop k => rfl
  | limit change =>
    simp only [Crowd.after]
    cases c.line.limits.update change with
    | error reason => rfl
    | ok limits => cases d <;> rfl
  | poll k now ask =>
    cases live : c.live? k with
    | none =>
      rw [after_poll_gone m c live]
      simp only [Crowd.callsOf, live]
      rfl
    | some x =>
      rw [after_poll m c live]
      simp only [Crowd.callsOf, live]
      exact (stack_polled m x c.line now ask).bucket d

/-- What an event reserves and does not give back is moved, granted afterwards and not before, or
granted to a stream that is dropped. -/
theorem balance_after (e : Event σ) :
    net (c.callsOf m d e) + c.held d =
      c.movedBy m d e + (c.after m e).held d + c.lostBy d e := by
  cases e with
  | come below =>
    have fresh : Crowd.granted d (some ({ below } : Stack σ)) = 0 := by cases d <;> rfl
    simp [Crowd.callsOf, Crowd.movedBy, Crowd.lostBy, Crowd.after, Crowd.held, net,
      grantedTo_append, Crowd.grantedTo, fresh]
  | drop k =>
    simp only [Crowd.callsOf, Crowd.movedBy, Crowd.lostBy, Crowd.after, Crowd.live?]
    cases found : c.streams[k]? with
    | none =>
      rw [List.set_eq_of_length_le (List.getElem?_eq_none_iff.mp found)]
      simp [net, Crowd.granted]
    | some old =>
      have replaced := held_set c d found none c.line
      have nobody : Crowd.granted d (none : Option (Stack σ)) = 0 := rfl
      rw [nobody] at replaced
      simp only [net, Option.join_some]
      omega
  | limit change =>
    have kept : (c.after m (.limit change)).held d = c.held d := by
      simp only [Crowd.after]
      cases c.line.limits.update change <;> rfl
    rw [kept]
    simp [Crowd.callsOf, Crowd.movedBy, Crowd.lostBy, net]
  | poll k now ask =>
    cases live : c.live? k with
    | none =>
      rw [after_poll_gone m c live]
      simp [Crowd.callsOf, Crowd.movedBy, Crowd.lostBy, live, net]
    | some x =>
      have polled := (stack_polled m x c.line now ask).balance d
      have replaced := held_set c d ((live_iff c).mp live) (some (x.poll m c.line now ask).1)
        (x.poll m c.line now ask).2.1
      rw [after_poll m c live]
      simp only [Crowd.callsOf, Crowd.movedBy, Crowd.lostBy, live]
      simp only [Crowd.granted] at replaced
      omega

/-! ## Events in a row -/

theorem bucket_run (events : List (Event σ)) :
    (c.run m events).line.bucket d = replay (c.line.bucket d) (c.calls m d events) := by
  induction events generalizing c with
  | nil => rfl
  | cons e rest ih =>
    rw [Crowd.calls, replay, List.foldl_append]
    change ((c.after m e).run m rest).line.bucket d = _
    rw [ih, bucket_after]
    rfl

theorem balance_run (events : List (Event σ)) :
    net (c.calls m d events) + c.held d =
      c.moved m d events + (c.run m events).held d + c.lost m d events := by
  induction events generalizing c with
  | nil => simp [Crowd.calls, Crowd.moved, Crowd.lost, Crowd.run, net]
  | cons e rest ih =>
    have first := balance_after m c d e
    have others := ih (c.after m e)
    rw [Crowd.calls, net_append, Crowd.moved, Crowd.lost]
    change _ = _ + (((c.after m e).run m rest).held d : Int) + _
    omega

/-- Nothing is lost just if no stream is dropped that holds a grant. -/
theorem lost_eq_zero_iff (events : List (Event σ)) :
    c.lost m d events = 0 ↔ ∀ before k rest, events = before ++ .drop k :: rest →
      Crowd.granted d ((c.run m before).live? k) = 0 := by
  induction events generalizing c with
  | nil => simp [Crowd.lost]
  | cons e rest ih =>
    rw [Crowd.lost, Nat.add_eq_zero_iff, ih]
    constructor
    · rintro ⟨first, others⟩ before k later same
      cases before with
      | nil =>
        cases same
        exact first
      | cons e' before =>
        cases same
        exact others before k later rfl
    · intro every
      constructor
      · cases e with
        | drop k => exact every [] k rest rfl
        | come => rfl
        | limit => rfl
        | poll => rfl
      · exact fun before k later same => every (e :: before) k later (by rw [same]; rfl)

/-! ## The balance -/

/-- Where the credit of the bucket of a direction goes while streams come to a line, are polled and
go. -/
structure Balance (line : Line) (events : List (Event σ)) : Prop where
  /-- The calls are all that happens to the bucket. -/
  bucket : (Crowd.run m { line } events).line.bucket d =
    replay (line.bucket d) (Crowd.calls m { line } d events)
  /-- What they reserve and do not give back is moved under a limit, still granted to a stream that
  is there, or was granted to one when it was dropped. -/
  balance : net (Crowd.calls m { line } d events) =
    Crowd.moved m { line } d events + (Crowd.run m { line } events).held d +
      Crowd.lost m { line } d events
  /-- So the streams that are there account for all of it just if none was dropped with a grant. -/
  exact : net (Crowd.calls m { line } d events) =
      Crowd.moved m { line } d events + (Crowd.run m { line } events).held d ↔
    ∀ before k rest, events = before ++ .drop k :: rest →
      Crowd.granted d ((Crowd.run m { line } before).live? k) = 0
  /-- A stream that came to ask the one below, whatever that answered, or that has no limit any
  longer, holds no grant after its poll. -/
  released : ∀ k now ask x, (Crowd.run m { line } events).live? k = some x →
    ask.direction = d → ask.size ≠ 0 →
    (x.top.handed? (Crowd.run m { line } events).line now ask).isSome ∨
      (Crowd.run m { line } events).line.limits.rate? d = none →
    Crowd.granted d (((Crowd.run m { line } events).after m (.poll k now ask)).live? k) = 0

theorem released_after (k : Nat) (now : Rat) (ask : Ask) (x : Stack σ) (live : c.live? k = some x)
    (wanted : ask.size ≠ 0)
    (asked : (x.top.handed? c.line now ask).isSome ∨ c.line.limits.rate? ask.direction = none) :
    Crowd.granted ask.direction ((c.after m (.poll k now ask)).live? k) = 0 := by
  have handed : (x.top.handed? c.line now ask).isSome := by
    rcases asked with handed | free
    · exact handed
    · rw [Stream.handed?, window_free wanted free]
      rfl
  have bound := (List.getElem?_eq_some_iff.mp ((live_iff c).mp live)).1
  rw [after_poll m c live, Crowd.live?, List.getElem?_set_self bound]
  exact (stack_polled m x c.line now ask).settled wanted handed

/-- Whatever streams do, the credit that they take is moved, held, or lost with those that are
dropped. -/
theorem credit_is_balanced (line : Line) (events : List (Event σ)) :
    Balance m d line events := by
  have balance : net (Crowd.calls m { line } d events) =
      Crowd.moved m { line } d events + (Crowd.run m { line } events).held d +
        Crowd.lost m { line } d events := by
    have whole := balance_run m { line } d events
    have nobody : ({ line } : Crowd σ).held d = 0 := rfl
    rw [nobody] at whole
    omega
  refine ⟨bucket_run m { line } d events, balance, ?exact, ?released⟩
  case exact =>
    rw [← lost_eq_zero_iff, balance]
    omega
  case released =>
    rintro k now ask x live rfl wanted asked
    exact released_after m _ k now ask x live wanted asked

/-- A stream below that has nothing to read and takes nothing. -/
def idle : Machine Unit where
  read _ _ := (.pending, ())
  write _ _ := (.pending, ())
  read_fits _ _ _ := nofun
  write_fits _ _ _ := nofun

/-- At an octet a second, a stream asks for 256 octets and is dropped while it waits. It moves
nothing and nobody holds anything, but 256 octets are reserved. -/
theorem dropped_grant_is_lost :
    let line : Line := { limits := { enabled := true, maxBits := 8 } }
    let events : List (Event Unit) := [.come (), .poll 0 0 (.read 256), .drop 0]
    net (Crowd.calls idle { line } .down events) ≠
      Crowd.moved idle { line } .down events + (Crowd.run idle { line } events).held .down := by
  decide +kernel

end Wirelog.CreditBalance
