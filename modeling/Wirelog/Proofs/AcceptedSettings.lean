import Wirelog.Authority.Numbered
import Wirelog.Gateway.Start
import Wirelog.Proofs.TableOrder

/-! Settings that are checked before a proxy starts. The check and the start read the same tables,
in another order, and the control calls of a running proxy read them once more. All three go by the
same few checks: a start is refused just where limits, options or rules are, ports aside, and
accepted settings make the state that control calls make of a proxy that started without any. -/
namespace Wirelog.AcceptedSettings
open Gateway PolicyLaws TableOrder

variable {g : Gateway} {s : Settings} {m : Machine} {p : Place}

/-! ## Which starts are refused -/

/-- That a start ends with the refusal of a setting or a rule. -/
def Refused (m : Machine) (s : Settings) (p : Place) : Prop :=
  ∃ failure refusal, (start m s p).2 = .error failure ∧ failure.refusal? = some refusal

/-- That the address of a proxy to send requests through, in place of the one in the settings, can
be read. -/
def Readable (relay : Option String) : Prop :=
  ∃ r, Forward.Options.relay? relay = .ok r

/-- That limits, options and rules are accepted. -/
def Sound (s : Settings) : Prop :=
  (∃ limits, s.checkedLimits = .ok limits) ∧ (∃ options, s.options = .ok options) ∧
    ∀ u ∈ s.rules.updates, acceptable u

/-- What the settings of a proxy that starts have come to. -/
structure Made (s : Settings) (relay : Option String) (g : Gateway) : Prop where
  policy : s.withRules {} = .ok g.policy
  limits : s.checkedLimits = .ok g.limits
  options : optionsFor s relay = .ok g.options

theorem orSetting_ok {α : Type} {x : Except Refusal α} {a : α} (fine : orSetting x = .ok a) :
    x = .ok a := by
  cases x with
  | error r => cases fine
  | ok b => cases fine; rfl

theorem orSetting_error {α : Type} {x : Except Refusal α} {f : StartFailure}
    (failed : orSetting x = .error f) : ∃ r, f.refusal? = some r := by
  cases x with
  | error r => cases failed; exact ⟨r, rfl⟩
  | ok b => cases failed

theorem optionsFor_error {relay : Option String} {f : StartFailure}
    (failed : optionsFor s relay = .error f) : ∃ r, f.refusal? = some r := by
  rw [optionsFor] at failed
  cases read : orSetting s.options with
  | error f' =>
    rw [read] at failed
    cases failed
    exact orSetting_error read
  | ok options =>
    rw [read] at failed
    cases relay with
    | none => cases failed
    | some text =>
      cases parsed : orSetting (Forward.Relay.parse text) with
      | error f' =>
        simp only [parsed] at failed
        cases failed
        exact orSetting_error parsed
      | ok r => simp only [parsed] at failed; cases failed

theorem optionsFor_ok {relay : Option String} {o : Forward.Options}
    (fine : optionsFor s relay = .ok o) :
    (∃ options, s.options = .ok options) ∧ Readable relay := by
  obtain ⟨options, read, fine⟩ := ok_of_bind fine
  refine ⟨⟨options, orSetting_ok read⟩, ?_⟩
  cases relay with
  | none => exact ⟨none, rfl⟩
  | some text =>
    obtain ⟨r, parsed, -⟩ := ok_of_bind fine
    exact ⟨some r, by rw [Forward.Options.relay?, orSetting_ok parsed]; rfl⟩

theorem made_of_ofSettings {relay : Option String} (fine : ofSettings s relay = .ok g) :
    Made s relay g := by
  rw [ofSettings] at fine
  cases ruled : s.withRules {} with
  | error r => rw [ruled] at fine; cases fine
  | ok policy =>
    rw [ruled] at fine
    obtain ⟨_, ⟨⟩, fine⟩ := ok_of_bind fine
    obtain ⟨limits, limited, fine⟩ := ok_of_bind fine
    obtain ⟨options, read, fine⟩ := ok_of_bind fine
    cases fine
    exact ⟨ruled, orSetting_ok limited, read⟩

theorem ofSettings_error {relay : Option String} {f : StartFailure}
    (failed : ofSettings s relay = .error f) : ∃ r, f.refusal? = some r := by
  rw [ofSettings] at failed
  cases ruled : s.withRules {} with
  | error r => rw [ruled] at failed; cases failed; exact ⟨r, rfl⟩
  | ok policy =>
    rw [ruled] at failed
    cases limited : orSetting s.checkedLimits with
    | error f' => simp only [limited] at failed; cases failed; exact orSetting_error limited
    | ok limits =>
      cases read : optionsFor s relay with
      | error f' => simp only [limited, read] at failed; cases failed; exact optionsFor_error read
      | ok options => simp only [limited, read] at failed; cases failed

theorem ofSettings_of_sound (sound : Sound s) {relay : Option String} (readable : Readable relay) :
    ∃ g, ofSettings s relay = .ok g := by
  obtain ⟨⟨limits, limited⟩, ⟨options, read⟩, fine⟩ := sound
  obtain ⟨policy, ruled⟩ := (all_go_through {} s.rules.updates).mpr fine
  have ruled : s.withRules {} = .ok policy := ruled
  have limited : orSetting s.checkedLimits = .ok limits := by rw [limited]; rfl
  have whole : ∃ o, optionsFor s relay = .ok o := by
    cases relay with
    | none => exact ⟨options, by rw [optionsFor, read]; rfl⟩
    | some text =>
      obtain ⟨r, parsed⟩ := readable
      cases parse : Forward.Relay.parse text with
      | error reason => simp [Forward.Options.relay?, parse, Except.map] at parsed
      | ok other => exact ⟨_, by simp only [optionsFor, read, parse]; rfl⟩
  obtain ⟨o, whole⟩ := whole
  exact ⟨_, by rw [ofSettings, ruled, limited, whole]; rfl⟩

theorem sound_of_made {relay : Option String} (made : Made s relay g) :
    Sound s ∧ Readable relay := by
  obtain ⟨read, readable⟩ := optionsFor_ok made.options
  exact ⟨⟨⟨_, made.limits⟩, read, (all_go_through {} _).mp ⟨_, made.policy⟩⟩, readable⟩

/-- A start that gets past the settings ends with a refusal no more. -/
theorem start_of_ofSettings (made : ofSettings s p.relay = .ok g) {failure : StartFailure}
    (failed : (start m s p).2 = .error failure) : failure.refusal? = none := by
  simp only [start, made] at failed
  cases authority : openAuthority m s.interception with
  | mk m' result =>
    simp only [authority] at failed
    cases result with
    | ok a =>
      simp only at failed
      split at failed
      · cases failed
      · cases failed; rfl
      · cases failed; rfl
    | error f =>
      cases failed
      simp only [openAuthority] at authority
      repeat' split at authority
      all_goals cases authority
      all_goals rfl

/-- A start is refused just where the settings are not sound, or the address in place of theirs
cannot be read. -/
theorem refused_iff (m : Machine) (s : Settings) (p : Place) :
    Refused m s p ↔ ¬ (Sound s ∧ Readable p.relay) := by
  constructor
  · rintro ⟨failure, refusal, failed, refused⟩ ⟨sound, readable⟩
    obtain ⟨g, made⟩ := ofSettings_of_sound sound readable
    cases refused.symm.trans (start_of_ofSettings made failed)
  · intro unsound
    cases made : ofSettings s p.relay with
    | ok g => exact absurd (sound_of_made (made_of_ofSettings made)) unsound
    | error failure =>
      obtain ⟨refusal, refused⟩ := ofSettings_error made
      exact ⟨failure, refusal, by simp only [start, made], refused⟩

/-- Settings are accepted just where they are sound and their ports are in order. -/
theorem check_iff_sound (s : Settings) : s.check = .ok () ↔ Sound s ∧ s.checkPorts = .ok () := by
  rw [check_iff, Sound, and_assoc, and_assoc, and_comm (a := s.checkPorts = .ok ())]

/-! ## Control calls -/

/-- The control calls that make limits of those of a proxy that is not limited yet. -/
def limitCalls (l : Pacing.Limits) : List Control :=
  [.limits (.up l.upKbps), .limits (.down l.downKbps), .limits (.latency l.latencyMs),
    .limits (.payload l.payload), .limits (.maxBits l.maxBits)] ++
  if l.enabled then [.limits .enable] else []

/-- The control calls for how requests are sent on. -/
def optionCalls (s : Settings) : List Control :=
  [.options (.retries s.patience.retries), .options (.requestLimit s.patience.requestMs),
    .options (.socketLimit s.patience.socketMs), .options (.connectLimit s.patience.connectMs),
    .options (.relay s.relay), .options (.trustAll s.trustAll)]

/-- The control calls that say the same as settings, rules in the order of their tables. -/
def calls (s : Settings) : List Control :=
  limitCalls s.limits ++ (optionCalls s ++ s.rules.updates.map .policy)

theorem controlAll_append {h : Gateway} {first : List Control} (run : g.controlAll first = .ok h)
    (second : List Control) : g.controlAll (first ++ second) = h.controlAll second := by
  have run : first.foldlM control g = .ok h := run
  rw [controlAll, List.foldlM_append, run]
  rfl

theorem limits_called {l : Pacing.Limits} (limited : s.checkedLimits = .ok l)
    (unlimited : g.limits.enabled = false) :
    g.controlAll (limitCalls s.limits) = .ok { g with limits := l } := by
  obtain ⟨⟨⟩, checked, ⟨⟩⟩ := ok_of_bind limited
  cases switched : s.limits.enabled <;>
    simp only [limitCalls, switched, Bool.false_eq_true, ↓reduceIte, List.cons_append,
      List.nil_append, controlAll, List.foldlM_cons, Gateway.control, Pacing.Limits.update,
      checked, bind, Except.bind, pure, Except.pure, List.foldlM_nil, Except.ok.injEq]
  · rw [unlimited, ← switched]
  · rw [← switched]

theorem options_called {o : Forward.Options} (read : s.options = .ok o) (g : Gateway) :
    g.controlAll (optionCalls s) = .ok { g with options := o } := by
  obtain ⟨relay, parsed, ⟨⟩⟩ := ok_of_bind read
  simp only [optionCalls, controlAll, List.foldlM_cons, Gateway.control, Forward.Options.update,
    parsed]
  rfl

theorem rules_called {q : Policy} {us : List Policy.Update} (run : g.policy.updateAll us = .ok q) :
    ∃ book, g.controlAll (us.map .policy) = .ok { g with policy := q, book } := by
  induction us generalizing g with
  | nil =>
    cases run
    exact ⟨g.book, rfl⟩
  | cons u us ih =>
    obtain ⟨next, made, onward⟩ := ok_of_bind (updateAll_cons g.policy u us ▸ run)
    obtain ⟨book, called⟩ := ih (g := { g with policy := next, book := forgetFor g.book u }) onward
    refine ⟨book, ?_⟩
    rw [List.map_cons, controlAll, List.foldlM_cons, Gateway.control, made]
    exact called

/-! ## Checks and starts -/

theorem made_of_start {port : UInt16} (started : (start m s p).2 = .ok (g, port)) :
    Made s p.relay g := by
  simp only [start] at started
  cases settled : ofSettings s p.relay with
  | error f => simp only [settled] at started; cases started
  | ok before =>
    obtain ⟨policy, limits, options⟩ := made_of_ofSettings settled
    simp only [settled] at started
    split at started
    · cases started
    · split at started
      · cases started
        exact ⟨policy, limits, options⟩
      · cases started
      · cases started

/-- Control calls bring a proxy that started without settings to where settings are. -/
theorem calls_reach {h : Gateway} {port : UInt16} {m' : Machine} {p' : Place} {port' : UInt16}
    (alone : p.relay = none) (started : (start m s p).2 = .ok (g, port))
    (plain : (start m' {} p').2 = .ok (h, port')) :
    ∃ book, h.controlAll (calls s) =
      .ok { h with policy := g.policy, limits := g.limits, options := g.options, book } := by
  obtain ⟨ruled, limited, read⟩ := made_of_start started
  have before := made_of_start plain
  have unlimited : {} = h.limits := Except.ok.inj before.limits
  have unruled : {} = h.policy := Except.ok.inj before.policy
  have read : s.options = .ok g.options := by
    rw [alone, optionsFor] at read
    obtain ⟨options, read, ⟨⟩⟩ := ok_of_bind read
    exact orSetting_ok read
  have first := limits_called limited (unlimited ▸ rfl : h.limits.enabled = false)
  have second := options_called read { h with limits := g.limits }
  obtain ⟨book, third⟩ :=
    rules_called (g := { h with limits := g.limits, options := g.options }) (unruled ▸ ruled :)
  exact ⟨book, by rw [calls, controlAll_append first, controlAll_append second, third]⟩

/-- What the check of settings decides. -/
structure Decides (s : Settings) : Prop where
  /-- Accepted settings make limits and options, and a policy of every policy. -/
  accepted : s.check = .ok () → (∃ limits, s.checkedLimits = .ok limits) ∧
    (∃ options, s.options = .ok options) ∧ ∀ policy, ∃ next, s.withRules policy = .ok next
  /-- So no start from them is refused. -/
  unrefused : s.check = .ok () → ∀ m p, p.relay = none → ¬ Refused m s p
  /-- Where settings are not accepted for another reason than their ports, every start is. -/
  refused : ∀ refusal, s.check = .error refusal → s.checkPorts ≠ .error refusal →
    ∀ m p, Refused m s p
  /-- A proxy that started from accepted settings has the policy, the limits and the options to
  which control calls bring one that started from none, and which they change in nothing else but
  the addresses that it remembers. -/
  reached : s.check = .ok () → ∀ m m' p p' g h port port', p.relay = none →
    (start m s p).2 = .ok (g, port) → (start m' {} p').2 = .ok (h, port') →
    ∃ book, h.controlAll (calls s) =
      .ok { h with policy := g.policy, limits := g.limits, options := g.options, book }

/-- The check of settings decides whether a start is refused, and accepted settings come to what
control calls come to. -/
theorem check_decides_start (s : Settings) : Decides s := by
  constructor
  case accepted =>
    intro accepted
    obtain ⟨⟨limited, read, -⟩, -⟩ := (check_iff_sound s).mp accepted
    exact ⟨limited, read, rules_go_through accepted⟩
  case unrefused =>
    intro accepted m p alone refused
    obtain ⟨sound, -⟩ := (check_iff_sound s).mp accepted
    exact (refused_iff m s p).mp refused ⟨sound, none, by rw [alone]; rfl⟩
  case refused =>
    intro refusal failed other m p
    refine (refused_iff m s p).mpr fun ⟨sound, _⟩ => ?_
    -- Sound settings fail at their ports or not at all.
    cases ordered : s.checkPorts with
    | ok _ => cases failed.symm.trans ((check_iff_sound s).mpr ⟨sound, ordered⟩)
    | error reason =>
      obtain ⟨⟨limits, limited⟩, ⟨options, read⟩, -⟩ := sound
      simp only [Settings.check, limited, read, ordered] at failed
      cases failed
      exact other ordered
  case reached =>
    intro _ m m' p p' g h port port' alone started plain
    exact calls_reach alone started plain

/-- A start with a limit, a relay and a rule, and the control calls that come to the same. -/
theorem start_and_calls_meet :
    let s : Settings := {
      relay := some "p:1", limits := { enabled := true, payload := 50 },
      rules := { hosts := [("A", "x")] } }
    let m : Machine := { toolkit := .numbered, bind := fun _ _ => .listening 9 }
    let p : Place := { address := .v4 127 0 0 1, port := 0 }
    ∃ g h book, (start m s p).2 = .ok (g, 9) ∧ (start m {} p).2 = .ok (h, 9) ∧
      g.options.relay = some ⟨"p", 1⟩ ∧ h.controlAll (calls s) =
        .ok { h with policy := g.policy, limits := g.limits, options := g.options, book } := by
  intro s m p
  have whole : Authority.checkCertificate (Toolkit.numbered.authority 0).1 = .ok () := by rfl
  have generated : ∃ a, Authority.generate .numbered 0 = .ok a := by
    simp only [Authority.generate, Authority.ofParts, whole]
    exact ⟨_, rfl⟩
  obtain ⟨a, generated⟩ := generated
  have started {t : Settings} {g : Gateway} (settled : ofSettings t p.relay = .ok g)
      (intercepts : t.interception = {}) :
      (start m t p).2 = .ok ({ g with authority := a }, 9) := by
    simp only [start, settled, intercepts, openAuthority, m, generated, if_true]
  have first := started (t := s) rfl rfl
  have second := started (t := {}) rfl rfl
  obtain ⟨book, same⟩ :=
    (check_decides_start s).reached rfl m m p p _ _ 9 9 rfl first second
  exact ⟨_, _, book, first, second, rfl, same⟩

end Wirelog.AcceptedSettings
