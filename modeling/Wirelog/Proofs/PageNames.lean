import Wirelog.Proofs.DigitRows
import Wirelog.Proofs.PageTurns

/-! Names of pages that are started without one. Such a page is numbered by how many pages its log
had before, so no two of them are ever named alike. Names that are given are arbitrary, and nothing
compares them with those to come: a page without a name shares one just when somebody gave another
page of the log the very name that its number makes. -/
namespace Wirelog.PageNames
open Recording Recording.Overlap PageTurns DigitRows

/-- Every page that was started without a name differs in name from all pages before it. -/
def Unshared (log : OpenLog) (turns : List Turn) : Prop :=
  ∀ (i j : Nat) (t : Turn) (p q : Archive.Page), turns[i]? = some t → t.ref = none → j < i →
    log.pages[i]? = some p → log.pages[j]? = some q → q.id ≠ p.id

theorem generated_injective {m n : Nat} (same : generated m = generated n) : m = n := by
  have letters := congrArg String.toList same
  simp only [generated, String.toList_append] at letters
  exact natText_injective (String.toList_inj.mp (List.append_cancel_left letters))

/-- A page bears the name that another number makes only if somebody gave it this name. -/
theorem id_eq_generated {u : Turn} {i j : Nat} (apart : j ≠ i) :
    u.id j = generated i ↔ u.ref = some (generated i) := by
  cases given : u.ref with
  | none =>
    simp only [Turn.id, given, Option.getD_none, reduceCtorEq, iff_false]
    exact fun same => apart (generated_injective same)
  | some name => simp [Turn.id, given]

section Logs
variable {log : OpenLog} {turns : List Turn}

/-- The page of a turn is at its place. -/
theorem page_at (pages : log.pages = pagesOf turns) (i : Nat) :
    log.pages[i]? = turns[i]?.map (·.page i) := by
  rw [pages, pagesOf, List.getElem?_mapIdx]

/-- A page without a name shares its own with another just where this was given. -/
theorem shared_iff_given (pages : log.pages = pagesOf turns) {i j : Nat} {t u : Turn}
    {p q : Archive.Page} (unnamed : t.ref = none) (apart : j ≠ i) (turned : turns[i]? = some t)
    (turned' : turns[j]? = some u) (held : log.pages[i]? = some p)
    (held' : log.pages[j]? = some q) : q.id = p.id ↔ u.ref = some (generated i) := by
  have own : t.id i = generated i := by simp [Turn.id, unnamed]
  rw [page_at pages, turned] at held
  rw [page_at pages, turned'] at held'
  cases held
  cases held'
  simp only [Turn.page, own]
  exact id_eq_generated apart

/-- No page without a name shares it with one before just where no such name was given before. -/
theorem unshared_iff (pages : log.pages = pagesOf turns) :
    Unshared log turns ↔ ∀ (i j : Nat) (t u : Turn), turns[i]? = some t → t.ref = none → j < i →
      turns[j]? = some u → u.ref ≠ some (generated i) := by
  constructor
  · intro unshared i j t u turned unnamed before turned' given
    have held : log.pages[i]? = some (t.page i) := by rw [page_at pages, turned, Option.map_some]
    have held' : log.pages[j]? = some (u.page j) := by rw [page_at pages, turned', Option.map_some]
    exact unshared i j t _ _ turned unnamed before held held'
      ((shared_iff_given pages unnamed (by omega) turned turned' held held').mpr given)
  · intro ungiven i j t p q turned unnamed before held held' shared
    obtain ⟨u, turned', -⟩ := Option.map_eq_some_iff.mp ((page_at pages j).symm.trans held')
    exact ungiven i j t u turned unnamed before turned'
      ((shared_iff_given pages unnamed (by omega) turned turned' held held').mp shared)

end Logs

/-- After every run, a page of a log that was started without a name is named by the number of pages
before it, and another page of the log has the same name just if it was given this very name. So the
pages without names differ from all before them exactly where nobody gave such a name. -/
theorem unnamed_pages_by_number (flags : Flags) (calls : List Call) {n : Nat} {log : OpenLog}
    (held : ((Ledger.new flags).run calls).recorder.log? n = some log) :
    let turns := turnsOf calls n
    log.pages.length = turns.length ∧
    (∀ (i : Nat) (t : Turn) (p : Archive.Page), turns[i]? = some t → t.ref = none →
      log.pages[i]? = some p → p.id = generated i ∧
        ∀ (j : Nat) (u : Turn) (q : Archive.Page), j ≠ i → turns[j]? = some u →
          log.pages[j]? = some q → (q.id = p.id ↔ u.ref = some (generated i))) ∧
    (Unshared log turns ↔ ∀ (i j : Nat) (t u : Turn), turns[i]? = some t → t.ref = none → j < i →
      turns[j]? = some u → u.ref ≠ some (generated i)) := by
  intro turns
  have pages : log.pages = pagesOf turns := (log_shows (run_is_paged flags calls) held).1
  refine ⟨pages ▸ length_pagesOf turns, fun i t p turned unnamed shown => ⟨?_, ?_⟩,
    unshared_iff pages⟩
  · rw [page_at pages, turned] at shown
    cases shown
    simp [Turn.page, Turn.id, unnamed]
  · exact fun j u q apart turned' shown' =>
      shared_iff_given pages unnamed apart turned turned' shown shown'

/-- A page named by its number behind one that was given the name of a number. -/
theorem second_page_by_number :
    let calls : List Call := [.newLog .epoch (some "Page 2") none, .newPage .epoch none none]
    ∃ log p q, ((Ledger.new {}).run calls).recorder.log? 0 = some log ∧
      log.pages[1]? = some p ∧ log.pages[0]? = some q ∧ p.id = "Page 1" ∧ q.id ≠ p.id := by
  intro calls
  obtain ⟨-, names, -⟩ := unnamed_pages_by_number {} calls (n := 0) rfl
  obtain ⟨name, others⟩ := names 1 _ _ rfl rfl rfl
  have own := others 0 _ _ (by decide) rfl rfl
  exact ⟨_, _, _, rfl, rfl, rfl, name, fun shared => absurd (own.mp shared) (by decide +kernel)⟩

/-- The first page of a log was given the name that the number of the second makes, so the second,
which is given none, has the name of the first. -/
theorem given_name_comes_again :
    let calls : List Call := [.newLog .epoch (some "Page 1") none, .newPage .epoch none none]
    ∃ log, ((Ledger.new {}).run calls).recorder.log? 0 = some log ∧
      log.pages.map Archive.Page.id = ["Page 1", "Page 1"] ∧
      (turnsOf calls 0).map Turn.ref = [some "Page 1", none] ∧
      ¬ Unshared log (turnsOf calls 0) := by
  refine ⟨_, rfl, by decide +kernel, rfl, fun unshared => ?_⟩
  exact unshared 1 0 _ _ _ rfl rfl (by decide) rfl rfl (by decide +kernel)

end Wirelog.PageNames
