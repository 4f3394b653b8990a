import Wirelog.Proofs.ExchangeHistory

/-! Exchanges do not see each other. What is recorded for one is settled by what it found at its
beginning and by the calls on itself. The statement compares two runs that agree on these and may
differ in everything else, the numbers of the exchange and of its log included. -/
namespace Wirelog.ExchangeCorrelation
open Recording Recording.Overlap RecorderLaws ExchangeHistory

/-- What an exchange finds at its beginning: the current page if a log is active, and the flags. -/
def surroundings (l : Ledger) : Option (Option String) × Flags :=
  (l.recorder.current?.map OpenLog.current, l.recorder.flags)

/-- An entry without the time of its beginning. -/
def undated (e : Archive.Entry) : Archive.Entry :=
  { e with started := Time.Instant.epoch }

private theorem advance_undated (flags : Flags) (phase : Phase) (e : Archive.Entry)
    (event : Event) :
    advance flags (phase, undated e) event =
      Prod.map id undated (advance flags (phase, e) event) := by
  simp only [advance]
  cases phase.after? event with
  | none => rfl
  | some next => cases event <;> rfl

private theorem advances_undated (flags : Flags) (events : List Event) (phase : Phase)
    (e : Archive.Entry) :
    events.foldl (advance flags) (phase, undated e) =
      Prod.map id undated (events.foldl (advance flags) (phase, e)) := by
  induction events generalizing phase e with
  | nil => rfl
  | cons event rest ih =>
    rw [List.foldl_cons, List.foldl_cons, advance_undated]
    exact ih _ _

/-- An entry without its time is settled by page, flags, request, label and calls. -/
theorem undated_entry (h : History) :
    undated h.entry =
      ((h.touches.map Touch.toEvent).foldl (advance h.flags)
        (.opened, fresh h.flags h.page Time.Instant.epoch h.request h.connection)).2 :=
  (congrArg Prod.snd (advances_undated h.flags (h.touches.map Touch.toEvent) .opened h.first)).symm

/-- The number of the log plays no part either, only whether there is one. -/
private theorem undated_entries_agree {g h : History} (page : g.page = h.page)
    (flags : g.flags = h.flags) (request : g.request = h.request)
    (connection : g.connection = h.connection) (touches : g.touches = h.touches) :
    undated g.entry = undated h.entry := by
  rw [undated_entry, undated_entry, page, flags, request, connection, touches]

theorem running_isSome (r : Recorder) : r.runningLog?.isSome = r.current?.isSome := by
  cases running : r.runningLog? with
  | none =>
    rw [current_of_stopped running]
    rfl
  | some n =>
    obtain ⟨log, -, current, -⟩ := running_is_log running
    rw [current]
    rfl

theorem opening_page (l : Ledger) (now : Time.Instant) (request : Http.Request)
    (connection : Option String) :
    (opening l now request connection).page = (surroundings l).1.join := by
  cases current : l.recorder.current? <;> simp [opening, surroundings, current]

/-- Two exchanges that begin with the same request and label, find the same page and flags and get
the same calls are recorded alike but for the time of their beginning: other exchanges, pages, flags
and logs make no difference. Each is recorded exactly if it began under an active log. -/
theorem entries_correlate {l₁ l₂ : Ledger} (reached₁ : Reached l₁) (reached₂ : Reached l₂)
    (now₁ now₂ : Time.Instant) (request : Http.Request) (connection : Option String)
    (calls₁ calls₂ : List Call) (alike : surroundings l₁ = surroundings l₂)
    (same : callsOn l₁.traces.length calls₁ = callsOn l₂.traces.length calls₂) :
    let entry₁ := (l₁.run (.begin now₁ request connection :: calls₁)).entryOf l₁.traces.length
    let entry₂ := (l₂.run (.begin now₂ request connection :: calls₂)).entryOf l₂.traces.length
    entry₁.isSome = l₁.recorder.current?.isSome ∧ entry₁.map undated = entry₂.map undated := by
  have active : l₁.recorder.runningLog?.isSome = l₂.recorder.runningLog?.isSome := by
    have page := congrArg (Option.isSome ∘ Prod.fst) alike
    simpa [surroundings, running_isSome] using page
  have entries := undated_entries_agree
    (g := { opening l₁ now₁ request connection with touches := callsOn l₁.traces.length calls₁ })
    (h := { opening l₂ now₂ request connection with touches := callsOn l₂.traces.length calls₂ })
    (by simp only [opening_page, alike]) (congrArg Prod.snd alike) rfl rfl same
  simp only [entry_since_begin reached₁, entry_since_begin reached₂, Option.isSome_map,
    running_isSome, Option.map_map, true_and]
  cases running₁ : l₁.recorder.runningLog? with
  | none =>
    have running₂ : l₂.recorder.runningLog? = none := by simpa [running₁] using active.symm
    rw [running₂]
    rfl
  | some n₁ =>
    obtain ⟨n₂, running₂⟩ : ∃ n₂, l₂.recorder.runningLog? = some n₂ := by
      rw [← Option.isSome_iff_exists, ← active, running₁]
      rfl
    rw [running₂]
    exact congrArg some entries

/-- A recorder with one log. -/
def quiet : Ledger :=
  (Ledger.new {}).run [.newLog .epoch (some "home") none]

/-- A recorder with an exchange of an earlier log under way and its flags changed since. -/
def busy : Ledger :=
  (Ledger.new { headers := true }).run [
    .newLog .epoch (some "start") none,
    .begin .epoch { uri := {} } none,
    .keep .headers false,
    .newLog .epoch none none,
    .newPage .epoch (some "home") none]

/-- An exchange alone, and one beside another that is dropped, with a page and an end of recording
in between. -/
theorem entries_correlate_in_a_crowd :
    let calls₁ : List Call := [.touch 0 (.event (.failed "reset"))]
    let calls₂ : List Call :=
      [.newPage .epoch none none, .touch 0 .drop, .endLog, .touch 1 (.event (.failed "reset"))]
    let entry₁ := (quiet.run (.begin .epoch { uri := {} } none :: calls₁)).entryOf 0
    let entry₂ := (busy.run (.begin .epoch { uri := {} } none :: calls₂)).entryOf 1
    Reached quiet ∧ Reached busy ∧ surroundings quiet = surroundings busy ∧
      callsOn quiet.traces.length calls₁ = callsOn busy.traces.length calls₂ ∧
      entry₁.isSome = true ∧ entry₁.map undated = entry₂.map undated :=
  ⟨⟨_, _, rfl⟩, ⟨_, _, rfl⟩, rfl, rfl,
    entries_correlate ⟨_, _, rfl⟩ ⟨_, _, rfl⟩ _ _ _ _ _ _ rfl rfl⟩

end Wirelog.ExchangeCorrelation
