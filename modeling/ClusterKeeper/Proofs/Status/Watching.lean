import ClusterKeeper.Proofs.Course
import ClusterKeeper.StatusCell

/-!
# `Proofs/Status/Watching.lean` — what holders and watchers of a status cell are told

A cell remembers a status and a number, and a watcher a number. What is told from these can be told
from the history of the uses, where there are no numbers: the status is that of the latest write,
and a watcher is told of a change exactly if something was written since it last took notice
(`LatestNotice`). The invariant is that the cell's number counts the writes and a watcher's the
writes before its latest notice (`CellUse.Recalls`).

A cell has many holders, and in `CellUse` they are no more than a number. That this is enough is
said of cells that are held by reference (`SharedCells`): a copy of a holder refers to the cell that
the holder refers to, so in all that comes of one cell there is never another one.
-/

set_option autoImplicit false

namespace ClusterKeeper

/-! ## 1. Histories -/

namespace CellAction

def isWrite : CellAction → Bool
  | set _ => true
  | _ => false

theorem isWrite_iff {a : CellAction} : a.isWrite = true ↔ ∃ s, a = set s := by
  cases a <;> simp [isWrite]

end CellAction

/-- The status of the latest write, or the one at the begin. -/
def statusAfter (first : Status) (history : List CellAction) : Status :=
  history.foldl (fun s a => match a with | .set t => t | _ => s) first

def writesMade (history : List CellAction) : Nat := history.countP CellAction.isWrite

/-- The watcher `w` takes notice of all that was written: it comes, or it takes the status. -/
inductive Notices (w : Nat) (front : List CellAction) : CellAction → Prop
  | comes (h : front.count .subscribe = w) : Notices w front .subscribe
  | takes (h : w < front.count .subscribe) : Notices w front (.take w)

/-- The watcher `w` last took notice between these two parts of the history. -/
structure LatestNotice (w : Nat) (history front back : List CellAction) : Prop where
  split : ∃ a, Notices w front a ∧ history = front ++ a :: back
  latest : .take w ∉ back

/-- What is to be answered to a use of a cell after this history. -/
inductive Told (first : Status) (history : List CellAction) : CellAction → CellAnswer → Prop
  | get : Told first history .get (.status (statusAfter first history))
  | set {s : Status} : Told first history (.set s) (.status (statusAfter first history))
  | debug :
    Told first history .debug (.text (StatusCell.debug (.ofStatus (statusAfter first history))))
  | share : Told first history .share (.number (history.count .share + 1))
  | subscribe : Told first history .subscribe (.number (history.count .subscribe))
  | hasChanged {w : Nat} {front back : List CellAction} {changed : Bool}
      (latest : LatestNotice w history front back) (h : changed = true ↔ ∃ s, .set s ∈ back) :
      Told first history (.hasChanged w) (.truth changed)
  | peek {w : Nat} (h : w < history.count .subscribe) :
      Told first history (.peek w) (.status (statusAfter first history))
  | take {w : Nat} (h : w < history.count .subscribe) :
      Told first history (.take w) (.status (statusAfter first history))
  | nobody {w : Nat} {a : CellAction} (ha : a = .hasChanged w ∨ a = .peek w ∨ a = .take w)
      (h : history.count .subscribe ≤ w) : Told first history a .noSuchWatcher

section
variable {first : Status} {history front back : List CellAction} {a : CellAction} {w : Nat}

theorem statusAfter_append (first : Status) (history more : List CellAction) :
    statusAfter first (history ++ more) = statusAfter (statusAfter first history) more :=
  List.foldl_append

theorem writesMade_append (history more : List CellAction) :
    writesMade (history ++ more) = writesMade history + writesMade more := List.countP_append

theorem writesMade_eq_zero_iff : writesMade history = 0 ↔ ∀ s, .set s ∉ history := by
  rw [writesMade, List.countP_eq_zero]
  constructor
  · exact fun h s hs => h _ hs rfl
  · intro h a ha hwrite
    obtain ⟨s, rfl⟩ := CellAction.isWrite_iff.1 hwrite
    exact h s ha

/-- Where nothing is written the status stays. -/
theorem statusAfter_of_no_write (h : ∀ s, .set s ∉ history) :
    statusAfter first history = first := by
  induction history generalizing first with
  | nil => rfl
  | cons a history ih =>
    have hrest : ∀ s, .set s ∉ history := fun s hs => h s (.tail _ hs)
    cases a with
    | set s => exact absurd (.head _) (h s)
    | _ => exact ih hrest

theorem Notices.isWrite (h : Notices w front a) : a.isWrite = false := by
  cases h <;> rfl

/-- The writes since the latest notice are those that a number tells apart. -/
theorem LatestNotice.writesMade_eq (h : LatestNotice w history front back) :
    writesMade history = writesMade front + writesMade back := by
  obtain ⟨a, ha, rfl⟩ := h.split
  rw [writesMade_append, writesMade, writesMade, writesMade, List.countP_cons, ha.isWrite]
  simp

/-- Without a write since then the status is the one that there was. -/
theorem LatestNotice.statusAfter_eq (h : LatestNotice w history front back)
    (hback : ∀ s, .set s ∉ back) : statusAfter first front = statusAfter first history := by
  obtain ⟨a, ha, rfl⟩ := h.split
  have hno : ∀ s, .set s ∉ a :: back := by
    intro s hs
    rcases List.mem_cons.1 hs with rfl | hs
    · exact absurd ha.isWrite (by simp [CellAction.isWrite])
    · exact hback s hs
  rw [statusAfter_append, statusAfter_of_no_write hno]

/-- With one more use, the watcher's latest notice is that use, or the one before. -/
theorem latestNotice_append (h : LatestNotice w (history ++ [a]) front back) :
    (front = history ∧ Notices w history a) ∨
      a ≠ .take w ∧ ∃ back', LatestNotice w history front back' := by
  obtain ⟨n, hn, hsplit⟩ := h.split
  rcases split_append hsplit with ⟨rfl, rfl, rfl⟩ | ⟨rest, rfl, rfl⟩
  · exact .inl ⟨rfl, hn⟩
  · refine .inr ⟨?_, rest, ⟨n, hn, rfl⟩, fun hmem => h.latest (List.mem_append_left _ hmem)⟩
    rintro rfl
    exact h.latest (by simp)

theorem LatestNotice.mono (h : LatestNotice w history front back) (ha : a ≠ .take w) :
    LatestNotice w (history ++ [a]) front (back ++ [a]) := by
  obtain ⟨n, hn, rfl⟩ := h.split
  refine ⟨⟨n, hn, by simp⟩, fun hmem => ?_⟩
  rcases List.mem_append.1 hmem with hmem | hmem
  · exact h.latest hmem
  · exact ha (List.mem_singleton.1 hmem).symm

theorem Notices.latest (h : Notices w history a) : LatestNotice w (history ++ [a]) history [] :=
  ⟨⟨a, h, rfl⟩, List.not_mem_nil⟩

end

/-! ## 2. A cell in use -/

namespace CellUse

variable {first : Status} {history front back : List CellAction} {u : CellUse} {w : Nat}

/-- What a cell in use and its watchers remember of the history. -/
structure Recalls (first : Status) (history : List CellAction) (u : CellUse) : Prop where
  status : u.cell.status = statusAfter first history
  version : u.cell.version = writesMade history
  holders : u.holders = history.count .share + 1
  watchers : u.watchers.length = history.count .subscribe
  noticed : ∀ w, w < u.watchers.length → ∃ front back, LatestNotice w history front back
  seen : ∀ w front back, LatestNotice w history front back →
    u.watchers[w]? = some ⟨writesMade front⟩

theorem recalls_start (first : Status) : (start first).Recalls first [] where
  status := rfl
  version := rfl
  holders := rfl
  watchers := rfl
  noticed w hw := absurd hw (Nat.not_lt_zero w)
  seen w front back h := by
    obtain ⟨a, -, hsplit⟩ := h.split
    simp at hsplit

/-- A use that is no notice of any watcher. -/
theorem Recalls.unnoticed {a : CellAction} (h : u.Recalls first history) {u' : CellUse}
    (hwatchers : u'.watchers = u.watchers) (hsubscribe : a ≠ .subscribe)
    (htake : ∀ w < u.watchers.length, a ≠ .take w)
    (hstatus : u'.cell.status = statusAfter first (history ++ [a]))
    (hversion : u'.cell.version = writesMade (history ++ [a]))
    (hholders : u'.holders = (history ++ [a]).count .share + 1) :
    u'.Recalls first (history ++ [a]) where
  status := hstatus
  version := hversion
  holders := hholders
  watchers := by
    rw [hwatchers, h.watchers, List.count_append, List.count_singleton,
      if_neg (by simpa using hsubscribe)]
    rfl
  noticed w hw := by
    rw [hwatchers] at hw
    obtain ⟨front, back, hlatest⟩ := h.noticed w hw
    exact ⟨front, _, hlatest.mono (htake w hw)⟩
  seen w front back hlatest := by
    rw [hwatchers]
    rcases latestNotice_append hlatest with ⟨-, hnotices⟩ | ⟨-, back', hlatest⟩
    · cases hnotices with
      | comes => exact absurd rfl hsubscribe
      | takes hw => exact absurd rfl (htake w (h.watchers ▸ hw))
    · exact h.seen w front back' hlatest

theorem Recalls.subscribe (h : u.Recalls first history) :
    (u.step .subscribe).1.Recalls first (history ++ [.subscribe]) where
  status := h.status.trans (statusAfter_append first history [.subscribe]).symm
  version := h.version.trans (writesMade_append history [.subscribe]).symm
  holders := by
    rw [List.count_append]
    exact h.holders
  watchers := by
    rw [List.count_append, ← h.watchers]
    exact List.length_append
  noticed w hw := by
    replace hw : w < (u.watchers ++ [u.cell.subscribe]).length := hw
    rw [List.length_append, List.length_singleton] at hw
    rcases Nat.lt_or_eq_of_le (Nat.le_of_lt_succ hw) with hw | rfl
    · obtain ⟨front, back, hlatest⟩ := h.noticed w hw
      exact ⟨front, _, hlatest.mono (by simp)⟩
    · exact ⟨history, [], (Notices.comes h.watchers.symm).latest⟩
  seen w front back hlatest := by
    show (u.watchers ++ [u.cell.subscribe])[w]? = _
    rcases latestNotice_append hlatest with ⟨rfl, hnotices⟩ | ⟨-, back', hlatest⟩
    · obtain ⟨hw⟩ := hnotices
      have hlength := h.watchers.trans hw
      rw [← h.version, List.getElem?_append_right (Nat.le_of_eq hlength), hlength, Nat.sub_self]
      rfl
    · have hseen := h.seen w front back' hlatest
      rw [List.getElem?_append_left, hseen]
      exact (List.getElem?_eq_some_iff.1 hseen).1

theorem Recalls.take (h : u.Recalls first history) (hw : w < u.watchers.length) :
    CellUse.Recalls first (history ++ [.take w])
      { u with watchers := u.watchers.set w u.cell.acknowledge } where
  status := h.status.trans (statusAfter_append first history [.take w]).symm
  version := h.version.trans (writesMade_append history [.take w]).symm
  holders := by
    rw [List.count_append]
    exact h.holders
  watchers := by
    rw [List.count_append]
    exact List.length_set.trans h.watchers
  noticed w' hw' := by
    rw [List.length_set] at hw'
    by_cases hww : w' = w
    · subst hww
      exact ⟨history, [], (Notices.takes (h.watchers ▸ hw)).latest⟩
    · obtain ⟨front, back, hlatest⟩ := h.noticed w' hw'
      exact ⟨front, _, hlatest.mono fun heq => hww (CellAction.take.inj heq).symm⟩
  seen w' front back hlatest := by
    rcases latestNotice_append hlatest with ⟨rfl, hnotices⟩ | ⟨hne, back', hlatest⟩
    · cases hnotices
      rw [List.getElem?_set_self hw, ← h.version]
      rfl
    · rw [List.getElem?_set_ne fun hww => hne (congrArg _ hww)]
      exact h.seen w' front back' hlatest

/-- One use. -/
theorem Recalls.step (h : u.Recalls first history) (a : CellAction) :
    (u.step a).1.Recalls first (history ++ [a]) := by
  have hstatus := statusAfter_append first history [a]
  have hversion := writesMade_append history [a]
  have hholders : (history ++ [a]).count .share = _ := List.count_append
  rw [← h.status] at hstatus
  rw [← h.version] at hversion
  have hlength : ∀ w, u.watchers[w]? = none → ¬ w < u.watchers.length := fun w hw =>
    Nat.not_lt.2 (List.getElem?_eq_none_iff.1 hw)
  -- A watcher takes notice where it comes or takes the status; other uses leave the watchers alone.
  cases a with
  | subscribe => exact h.subscribe
  | take w =>
    rw [CellUse.step]
    split
    · next hw => exact h.take (List.getElem?_eq_some_iff.1 hw).1
    · next hw =>
      refine h.unnoticed rfl (by simp) (fun w' hw' heq => ?_) hstatus.symm hversion.symm
        (by rw [hholders]; exact h.holders)
      cases heq
      exact hlength _ hw hw'
  | hasChanged w | peek w =>
    rw [CellUse.step]
    split <;> exact h.unnoticed rfl (by simp) (by simp) hstatus.symm hversion.symm
      (by rw [hholders]; exact h.holders)
  | share =>
    refine h.unnoticed rfl (by simp) (by simp) hstatus.symm hversion.symm ?_
    rw [hholders, CellUse.step, h.holders]
    rfl
  | get | set | debug =>
    exact h.unnoticed rfl (by simp) (by simp) hstatus.symm hversion.symm
      (by rw [hholders]; exact h.holders)

/-- The two numbers differ exactly if something was written since the watcher took notice. -/
theorem Recalls.hasChanged_iff (h : u.Recalls first history)
    (hlatest : LatestNotice w history front back) :
    u.cell.hasChanged ⟨writesMade front⟩ = true ↔ ∃ s, .set s ∈ back := by
  rw [StatusCell.hasChanged, h.version, hlatest.writesMade_eq, bne_iff_ne, ne_eq, Nat.add_eq_left,
    writesMade_eq_zero_iff]
  simp

/-- What is remembered is enough for what is to be answered. -/
theorem Recalls.told (h : u.Recalls first history) (a : CellAction) :
    Told first history a (u.step a).2 := by
  have habsent : ∀ {w}, u.watchers[w]? = none → history.count .subscribe ≤ w := fun hw =>
    h.watchers ▸ List.getElem?_eq_none_iff.1 hw
  have hthere : ∀ {w x}, u.watchers[w]? = some x → w < history.count .subscribe := fun hw =>
    h.watchers ▸ (List.getElem?_eq_some_iff.1 hw).1
  cases a with
  | get =>
    rw [CellUse.step, h.status]
    exact .get
  | set s =>
    rw [CellUse.step, h.status]
    exact .set
  | debug =>
    rw [CellUse.step, StatusCell.debug, h.status]
    exact .debug
  | share =>
    rw [CellUse.step, h.holders]
    exact .share
  | subscribe =>
    rw [CellUse.step, h.watchers]
    exact .subscribe
  | hasChanged w =>
    rw [CellUse.step]
    split
    · next watcher hw =>
      obtain ⟨front, back, hlatest⟩ := h.noticed w (List.getElem?_eq_some_iff.1 hw).1
      have hseen := h.seen w front back hlatest
      rw [hw] at hseen
      cases hseen
      exact .hasChanged hlatest (h.hasChanged_iff hlatest)
    · next hw => exact .nobody (.inl rfl) (habsent hw)
  | peek w =>
    rw [CellUse.step]
    split
    · next hw =>
      rw [h.status]
      exact .peek (hthere hw)
    · next hw => exact .nobody (.inr (.inl rfl)) (habsent hw)
  | take w =>
    rw [CellUse.step]
    split
    · next hw =>
      rw [h.status]
      exact .take (hthere hw)
    · next hw => exact .nobody (.inr (.inr rfl)) (habsent hw)

/-- A watcher that is told of no change has missed no write. -/
theorem Recalls.no_write (h : u.Recalls first history) (hlatest : LatestNotice w history front back)
    (hfalse : (u.step (.hasChanged w)).2 = .truth false) : ∀ s, .set s ∉ back := by
  intro s hs
  have htrue := (h.hasChanged_iff hlatest).2 ⟨s, hs⟩
  rw [CellUse.step, h.seen w front back hlatest] at hfalse
  exact Bool.false_ne_true ((CellAnswer.truth.inj hfalse).symm.trans htrue)

/-- Any number of uses. -/
theorem Recalls.run (h : u.Recalls first history) (more : List CellAction) :
    (u.run more).1.Recalls first (history ++ more) := by
  induction more generalizing u history with
  | nil => simpa [CellUse.run] using h
  | cons a more ih =>
    rw [List.append_cons]
    exact ih (h.step a)

theorem run_answers (u : CellUse) (front : List CellAction) (a : CellAction)
    (back : List CellAction) :
    (u.run (front ++ a :: back)).2[front.length]? = some ((u.run front).1.step a).2 := by
  induction front generalizing u with
  | nil => rfl
  | cons b front ih => exact ih (u.step b).1

end CellUse

/-! ## 3. Cells held by reference -/

/-- Cells, the holders of them and their watchers, each with a reference to its cell. -/
structure SharedCells where
  cells : List StatusCell
  holders : List Nat
  watchers : List (Nat × StatusWatcher)
  deriving DecidableEq, Repr

namespace SharedCells

/-- One new cell with one holder. -/
def ofStatus (s : Status) : SharedCells := ⟨[.ofStatus s], [0], []⟩

/-- What the holder refers to. -/
def held (m : SharedCells) (holder : Nat) : Option (Nat × StatusCell) := do
  let ref ← m.holders[holder]?
  let cell ← m.cells[ref]?
  return (ref, cell)

/-- What the watcher refers to, with what it has seen. -/
def watched (m : SharedCells) (w : Nat) : Option (Nat × StatusCell × StatusWatcher) := do
  let (ref, watcher) ← m.watchers[w]?
  let cell ← m.cells[ref]?
  return (ref, cell, watcher)

/-- A use, through `holder` unless it is the use of a watcher. There is none through a holder that
is not there. -/
def step (m : SharedCells) (holder : Nat) : CellAction → Option (SharedCells × CellAnswer)
  | .get => (m.held holder).map fun (_, cell) => (m, .status cell.status)
  | .set s => (m.held holder).map fun (ref, cell) =>
    ({ m with cells := m.cells.set ref (cell.set s) }, .status cell.status)
  | .debug => (m.held holder).map fun (_, cell) => (m, .text cell.debug)
  | .share => (m.held holder).map fun (ref, _) =>
    ({ m with holders := m.holders ++ [ref] }, .number m.holders.length)
  | .subscribe => (m.held holder).map fun (ref, cell) =>
    ({ m with watchers := m.watchers ++ [(ref, cell.subscribe)] }, .number m.watchers.length)
  | .hasChanged w => some <|
    match m.watched w with
    | some (_, cell, watcher) => (m, .truth (cell.hasChanged watcher))
    | none => (m, .noSuchWatcher)
  | .peek w => some <|
    match m.watched w with
    | some (_, cell, _) => (m, .status cell.status)
    | none => (m, .noSuchWatcher)
  | .take w => some <|
    match m.watched w with
    | some (ref, cell, _) =>
      ({ m with watchers := m.watchers.set w (ref, cell.acknowledge) }, .status cell.status)
    | none => (m, .noSuchWatcher)

def run (m : SharedCells) : List (Nat × CellAction) → Option (SharedCells × List CellAnswer)
  | [] => some (m, [])
  | (holder, a) :: uses => do
    let (next, answer) ← m.step holder a
    let (last, answers) ← next.run uses
    return (last, answer :: answers)

/-- Each use is through a holder that is there by then, where `n` are there before the first. -/
def Held : Nat → List (Nat × CellAction) → Prop
  | _, [] => True
  | n, (holder, a) :: uses => holder < n ∧ Held (n + [a].count .share) uses

/-- Every holder and every watcher refers to the one cell. -/
def ofUse (u : CellUse) : SharedCells :=
  ⟨[u.cell], List.replicate u.holders 0, u.watchers.map (0, ·)⟩

variable {u : CellUse} {holder : Nat}

theorem held_ofUse (h : holder < u.holders) : (ofUse u).held holder = some (0, u.cell) := by
  simp [held, ofUse, h]

theorem watched_ofUse (u : CellUse) (w : Nat) :
    (ofUse u).watched w = (u.watchers[w]?).map (0, u.cell, ·) := by
  rw [watched, ofUse, List.getElem?_map]
  cases u.watchers[w]? <;> rfl

theorem holders_step (u : CellUse) (a : CellAction) :
    (u.step a).1.holders = u.holders + [a].count .share := by
  cases a with
  | hasChanged w | peek w | take w =>
    rw [CellUse.step]
    split <;> rfl
  | _ => rfl

/-- A use through any holder is a use of the one cell. -/
theorem step_ofUse (h : holder < u.holders) (a : CellAction) :
    (ofUse u).step holder a = some (ofUse (u.step a).1, (u.step a).2) := by
  cases a with
  | get | set | debug =>
    rw [step, held_ofUse h]
    rfl
  | share =>
    rw [step, held_ofUse h]
    simp [ofUse, CellUse.step, List.replicate_succ']
  | subscribe =>
    rw [step, held_ofUse h]
    simp [ofUse, CellUse.step]
  | hasChanged w | peek w =>
    rw [step, watched_ofUse, CellUse.step]
    cases u.watchers[w]? <;> rfl
  | take w =>
    rw [step, watched_ofUse, CellUse.step]
    cases u.watchers[w]? with
    | none => rfl
    | some watcher => simp [ofUse, List.map_set]

theorem run_ofUse {uses : List (Nat × CellAction)} (h : Held u.holders uses) :
    (ofUse u).run uses =
      some (ofUse (u.run (uses.map Prod.snd)).1, (u.run (uses.map Prod.snd)).2) := by
  induction uses generalizing u with
  | nil => rfl
  | cons use uses ih =>
    obtain ⟨holder, a⟩ := use
    obtain ⟨hholder, huses⟩ := h
    rw [← holders_step] at huses
    rw [run, step_ofUse hholder]
    simp only [Option.bind_eq_bind, Option.bind_some, ih huses]
    rfl

/-- However a cell is held and used, every answer is the one that the uses before it tell. In
particular a watcher that is told of no change has last seen the present status. -/
theorem run_told (first : Status) {uses : List (Nat × CellAction)} (h : Held 1 uses) :
    ∃ last answers, (ofStatus first).run uses = some (last, answers) ∧
      answers = ((CellUse.start first).run (uses.map Prod.snd)).2 ∧
      ∀ before holder a after, uses = before ++ (holder, a) :: after →
        ∃ answer, answers[before.length]? = some answer ∧
          Told first (before.map Prod.snd) a answer ∧
          ∀ w front back, LatestNotice w (before.map Prod.snd) front back →
            a = .hasChanged w → answer = .truth false →
            statusAfter first front = statusAfter first (before.map Prod.snd) := by
  refine ⟨_, _, run_ofUse (u := .start first) h, rfl, ?_⟩
  rintro before holder a after rfl
  have hrecalls := (CellUse.recalls_start first).run (before.map Prod.snd)
  rw [List.nil_append] at hrecalls
  refine ⟨_, ?_, hrecalls.told a, ?_⟩
  · rw [List.map_append, List.map_cons, ← CellUse.run_answers, List.length_map]
  · rintro w front back hlatest rfl hfalse
    exact hlatest.statusAfter_eq (hrecalls.no_write hlatest hfalse)

/-- A watcher that came through one holder is told of the write through another, until it takes the
status. -/
theorem run_told_two_holders :
    Held 1 [(0, .subscribe), (0, .share), (1, .set .pause), (0, .hasChanged 0), (0, .take 0),
        (0, .hasChanged 0)] ∧
      ∃ last answers, (ofStatus .active).run
          [(0, .subscribe), (0, .share), (1, .set .pause), (0, .hasChanged 0), (0, .take 0),
            (0, .hasChanged 0)] = some (last, answers) ∧
        answers = [.number 0, .number 1, .status .active, .truth true, .status .pause,
          .truth false] := by
  have h : Held 1 [(0, .subscribe), (0, .share), (1, .set .pause), (0, .hasChanged 0), (0, .take 0),
      (0, .hasChanged 0)] := by
    simp [Held]
  obtain ⟨last, answers, hrun, hanswers, -⟩ := run_told .active h
  exact ⟨h, last, answers, hrun, hanswers⟩

end SharedCells

end ClusterKeeper
