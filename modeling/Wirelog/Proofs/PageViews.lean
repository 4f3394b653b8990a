import Wirelog.Proofs.PageTurns

/-! What a document shows of some of its pages. A view keeps entries by their page references, and
references are only text, so it is right just when every reference leads to a page of the same
document and to the page that was current when the exchange began. Both are read off the calls: an
exchange finds the last page of the active log, and pages are never taken away. -/
namespace Wirelog.PageViews
open Recording Recording.Overlap RecorderLaws ExchangeHistory LogSuccession PageTurns

/-- What an exchange finds when it begins: the active log and the page that is current there, which
is the last one. -/
def scene (p : Paging) : Option Nat × Option String :=
  (p.active, p.active.bind fun n => (pagesOf (p.turns n)).getLast?.map Archive.Page.id)

/-- What exchanges find when they begin. -/
def scenesFrom (p : Paging) : List Call → List (Option Nat × Option String)
  | [] => []
  | .begin .. :: rest => scene p :: scenesFrom p rest
  | call :: rest => scenesFrom (p.after call) rest

/-- What the exchanges of a run find, in the order of their beginning. -/
def scenes (calls : List Call) : List (Option Nat × Option String) :=
  scenesFrom {} calls

/-- The exchanges that began in a log while one of some pages was current there, in the order of
their beginning. -/
def beginsOn (calls : List Call) (n : Nat) (refs : List String) : List Nat :=
  ((scenes calls).zipIdx.filter fun s => s.1.1 == some n && s.1.2.any refs.contains).map (·.2)

/-! ## Pages that exchanges find -/

theorem turns_add (p : Paging) (n : Nat) (t : Turn) (m : Nat) :
    p.turns m <+: (p.add n t).turns m := by
  simp only [Paging.turns, Paging.add, List.getElem?_modify]
  cases p.logs[m]? with
  | none => exact List.nil_prefix
  | some turns =>
    by_cases same : n = m
    · simp [same]
    · simp [same]

/-- Pages are never taken away. -/
theorem turns_after (p : Paging) (call : Call) (n : Nat) : p.turns n <+: (p.after call).turns n := by
  cases call with
  | newLog now ref title =>
    simp only [Paging.turns, Paging.after]
    cases old : p.logs[n]? with
    | none => exact List.nil_prefix
    | some turns =>
      have bound := (List.getElem?_eq_some_iff.mp old).1
      simp only [List.getElem?_append_left bound, old, List.prefix_rfl]
  | newPage now ref title =>
    simp only [Paging.after]
    cases p.active with
    | none => exact List.prefix_rfl
    | some m => exact turns_add p m _ n
  | edit m now change =>
    cases change with
    | comment text => exact List.prefix_rfl
    | page ref title => exact turns_add p m _ n
  | _ => exact List.prefix_rfl

theorem turns_run (p : Paging) (calls : List Call) (n : Nat) :
    p.turns n <+: (calls.foldl Paging.after p).turns n := by
  induction calls generalizing p with
  | nil => exact List.prefix_rfl
  | cons call rest ih => exact (turns_after p call n).trans (ih _)

theorem pagesOf_grown {turns more : List Turn} (grown : turns <+: more) :
    pagesOf turns <+: pagesOf more := by
  obtain ⟨rest, rfl⟩ := grown
  simp only [pagesOf, List.mapIdx_append]
  exact List.prefix_append _ _

/-- The active log has a page. -/
def Ready (p : Paging) : Prop :=
  ∀ n, p.active = some n → p.turns n ≠ []

theorem ready_after {p : Paging} (ready : Ready p) (call : Call) : Ready (p.after call) := by
  -- A log that stays active had a page before, and pages are never taken away.
  have stays (same : (p.after call).active = p.active) : Ready (p.after call) := by
    intro n active empty
    have before := turns_after p call n
    rw [empty] at before
    exact ready n (same ▸ active) (List.prefix_nil.mp before)
  cases call with
  | newLog now ref title =>
    intro n active
    cases active
    simp [Paging.turns, Paging.after]
  | endLog => intro n active; cases active
  | newPage now ref title =>
    refine stays ?_
    simp only [Paging.after]
    split <;> rfl
  | edit n now change => cases change <;> exact stays rfl
  | _ => exact stays rfl

/-- The page that an exchange finds is one of its log for good. -/
theorem scene_is_page {p : Paging} (ready : Ready p) {calls : List Call} {n : Nat}
    {page : Option String} (found : (some n, page) ∈ scenesFrom p calls) :
    ∃ q ∈ pagesOf ((calls.foldl Paging.after p).turns n), page = some q.id := by
  induction calls generalizing p with
  | nil => cases found
  | cons call rest ih =>
    cases call with
    | begin now request connection =>
      rcases List.mem_cons.mp found with here | later
      · obtain ⟨active, current⟩ := Prod.mk.inj here
        rw [active.symm, Option.bind_some] at current
        obtain ⟨last, isLast⟩ : ∃ q, (pagesOf (p.turns n)).getLast? = some q := by
          rw [← Option.isSome_iff_exists, List.getLast?_isSome, ← List.length_pos_iff,
            length_pagesOf, List.length_pos_iff]
          exact ready n active.symm
        have kept := (pagesOf_grown (turns_run p (.begin now request connection :: rest) n)).subset
          (List.mem_of_getLast? isLast)
        exact ⟨last, kept, by rw [current, isLast]; rfl⟩
      · exact ih ready later
    | _ => exact ih (ready_after ready _) found

/-! ## Entries name the pages that their exchanges found -/

/-- What an exchange found when it began, by its history. -/
def sceneOf (h : History) : Option Nat × Option String :=
  (h.log, h.page)

theorem opening_scene {p : Paging} {l : Ledger} (paged : Paged p l.recorder) (now : Time.Instant)
    (request : Http.Request) (connection : Option String) :
    sceneOf (opening l now request connection) = scene p := by
  have running : l.recorder.runningLog? = p.active := paged.outline.2
  simp only [sceneOf, opening, scene, running]
  cases active : p.active with
  | none =>
    rw [active] at running
    rw [current_of_stopped running]
    rfl
  | some n =>
    rw [active] at running
    obtain ⟨log, held, current, -⟩ := running_is_log running
    simp only [current, Option.bind_some, (log_shows paged held).2]

/-- Exchanges begin in the scenes that the calls set. -/
theorem openings_follow_scenes {p : Paging} {l : Ledger} (paged : Paged p l.recorder)
    (calls : List Call) : (openings l calls).map sceneOf = scenesFrom p calls := by
  induction calls generalizing p l with
  | nil => rfl
  | cons call rest ih =>
    have next := ih (paged_after paged call)
    cases call with
    | begin now request connection =>
      rw [openings, List.map_cons, next, opening_scene paged, scenesFrom]
      rfl
    | _ => exact next

/-- Every run is told by histories that name its scenes. -/
theorem told_by_scenes (flags : Flags) (calls : List Call) :
    ∃ hs, Tells hs ((Ledger.new flags).run calls) ∧ hs.map sceneOf = scenes calls := by
  refine ⟨_, tells_run (tells_new flags) calls, ?_⟩
  rw [map_histories fun _ _ => rfl]
  exact openings_follow_scenes (paged_new flags) calls

/-- Whatever happens to an exchange, its entry stays on its page. -/
theorem entry_page (h : History) : h.entry.pageref = h.page := by
  have stays (event : Event) (state : Phase × Archive.Entry) :
      (advance h.flags state event).2.pageref = state.2.pageref := by
    simp only [advance]
    cases state.1.after? event with
    | none => rfl
    | some phase => cases event <;> rfl
  have whole (events : List Event) (state : Phase × Archive.Entry) :
      (events.foldl (advance h.flags) state).2.pageref = state.2.pageref := by
    induction events generalizing state with
    | nil => rfl
    | cons event rest ih => rw [List.foldl_cons, ih, stays]
  exact whole _ _

section Documents
variable {hs : List History} {l : Ledger} {calls : List Call}

/-- Every entry of a log names a page that the calls started in it. -/
theorem entries_named (tells : Tells hs l) (told : hs.map sceneOf = scenes calls) {n : Nat}
    {e : Archive.Entry} (member : e ∈ entriesOf l.recorder n) :
    ∃ q ∈ pagesOf (turnsOf calls n), e.pageref = some q.id := by
  rw [tells.entries] at member
  obtain ⟨h, began, rfl⟩ := List.mem_map.mp member
  obtain ⟨listed, log⟩ := List.mem_filter.mp began
  have seen : (some n, h.page) ∈ scenes calls := by
    rw [← told, ← beq_iff_eq.mp log]
    exact List.mem_map_of_mem listed
  rw [entry_page]
  exact scene_is_page (fun _ active => by cases active) seen

/-- The entries on some pages of a log are those of the exchanges that began on them. -/
theorem entries_on_pages (tells : Tells hs l) (told : hs.map sceneOf = scenes calls) (n : Nat)
    (refs : List String) :
    ((entriesOf l.recorder n).filter (·.pageref.any refs.contains)).map some =
      (beginsOn calls n refs).map l.entryOf := by
  have begins : beginsOn calls n refs =
      (hs.zipIdx.filter fun s => s.1.log == some n && s.1.page.any refs.contains).map (·.2) := by
    rw [beginsOn, ← told, List.zipIdx_map, List.filter_map, List.map_map]
    rfl
  rw [begins, ← chosen_entries tells n fun h => h.page.any refs.contains, tells.entries,
    List.filter_map]
  simp only [Function.comp_def, entry_page]

end Documents

/-! ## Views of a document -/

section Views
variable {log : Archive.Log}

/-- Where every reference leads to a page, a view goes by the references alone. -/
theorem view_entries (named : ∀ e ∈ log.entries, ∃ q ∈ log.pages, e.pageref = some q.id)
    (refs : List String) :
    (log.onPages refs).entries = log.entries.filter (·.pageref.any refs.contains) := by
  refine List.filter_congr fun e member => ?_
  obtain ⟨q, page, pageref⟩ := named e member
  simp only [pageref, Option.any_some]
  cases wanted : refs.contains q.id with
  | false => rfl
  | true =>
    simp only [Bool.true_and, List.any_eq_true, beq_iff_eq]
    exact ⟨q, List.mem_filter.mpr ⟨page, wanted⟩, rfl⟩

/-- The view of all pages is the whole document then. -/
theorem view_of_all (named : ∀ e ∈ log.entries, ∃ q ∈ log.pages, e.pageref = some q.id) :
    log.onPages (log.pages.map Archive.Page.id) = log := by
  have wanted (q : Archive.Page) (page : q ∈ log.pages) :
      (log.pages.map Archive.Page.id).contains q.id = true :=
    List.contains_iff_mem.mpr (List.mem_map_of_mem page)
  have pages : (log.onPages (log.pages.map Archive.Page.id)).pages = log.pages :=
    List.filter_eq_self.mpr wanted
  have entries : (log.onPages (log.pages.map Archive.Page.id)).entries = log.entries := by
    rw [view_entries named]
    refine List.filter_eq_self.mpr fun e member => ?_
    obtain ⟨q, page, pageref⟩ := named e member
    simpa only [pageref, Option.any_some] using wanted q page
  have parts (refs : List String) : log.onPages refs =
      { log with pages := (log.onPages refs).pages, entries := (log.onPages refs).entries } := rfl
  rw [parts, pages, entries]

end Views

/-- With a log active, a view of its document has exactly the wanted pages in the order of their
creation, and exactly the entries of the exchanges that began in this log while one of these pages
was current, in the order of their beginning. Every entry names a page of the document, so the view
of all pages is the whole. -/
theorem views_follow_pages (flags : Flags) (calls : List Call) {n : Nat}
    (active : activeAfter calls = some n) :
    let l := (Ledger.new flags).run calls
    ∃ document, (l.step .look).2 = .log (some document) ∧
      (∀ refs, (document.onPages refs).pages =
          (pagesOf (turnsOf calls n)).filter (refs.contains ·.id) ∧
        (document.onPages refs).entries.map some = (beginsOn calls n refs).map l.entryOf) ∧
      (∀ e ∈ document.entries, ∃ q ∈ document.pages, e.pageref = some q.id) ∧
      document.onPages (document.pages.map Archive.Page.id) = document := by
  intro l
  obtain ⟨hs, tells, told⟩ := told_by_scenes flags calls
  have running : l.recorder.runningLog? = some n := (running_is_active flags calls).trans active
  obtain ⟨log, found, current, -⟩ := running_is_log running
  have pages : log.document.pages = pagesOf (turnsOf calls n) :=
    (log_shows (run_is_paged flags calls) found).1
  have entries : log.document.entries = entriesOf l.recorder n := (entries_of_log found).symm
  have named : ∀ e ∈ log.document.entries, ∃ q ∈ log.document.pages, e.pageref = some q.id :=
    fun e member => pages ▸ entries_named tells told (entries ▸ member)
  refine ⟨log.document, by simp [Ledger.step, Recorder.document?, current], fun refs => ⟨?_, ?_⟩,
    named, view_of_all named⟩
  · rw [← pages]
    rfl
  · rw [view_entries named, entries, entries_on_pages tells told]

/-- A log that took over from another while its first exchange was under way, with a page named and
one not. -/
theorem view_of_two_pages :
    let calls : List Call := [
      .newLog .epoch (some "a") none,
      .begin .epoch { uri := {} } none,
      .newLog .epoch none none,
      .begin .epoch { uri := {} } none,
      .newPage .epoch (some "a") none,
      .begin .epoch { uri := {} } none,
      .touch 0 .drop,
      .newPage .epoch none none,
      .begin .epoch { uri := {} } none]
    let l := (Ledger.new {}).run calls
    activeAfter calls = some 1 ∧ ∃ document, (l.step .look).2 = .log (some document) ∧
      (document.onPages ["a", "Page 0"]).pages.map Archive.Page.id = ["Page 0", "a"] ∧
      (document.onPages ["a", "Page 0"]).entries.map some = [l.entryOf 1, l.entryOf 2] := by
  intro calls l
  obtain ⟨document, seen, views, -, -⟩ := views_follow_pages {} calls (n := 1) rfl
  obtain ⟨pages, entries⟩ := views ["a", "Page 0"]
  have begins : beginsOn calls 1 ["a", "Page 0"] = [1, 2] := by decide +kernel
  refine ⟨rfl, document, seen, ?_, ?_⟩
  · rw [pages]
    decide +kernel
  · rw [entries, begins]
    rfl

end Wirelog.PageViews
