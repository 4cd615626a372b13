import StatusWait.Proofs.Look
import StatusWait.Session

/-!
# Runs

The looks of one wait, one after the other.

## The model

A `Look` is what the world does at one look: it hands in a snapshot, or nothing, or what the wait
itself remembers, and it has a reply ready for every identity that may be looked up. Nothing ties
the replies of two looks together, so a list of looks is the part that callers and any source of
answers play in a run. An `Entry` is a look on record, with the memory before it and what came of
it. `Config.run` gives the entries of a list of looks, the earliest first, and `Config.after` the
memory at the end; a state is reached when it is `Config.after .fresh` of some looks.

`latest` picks from a record the last thing of some kind that it shows, such as the last answer.
-/

namespace StatusWait

variable {S σ : Type}

/-- One look of a run: what it is given, and what a lookup would reply. -/
structure Look (S σ : Type) where
  /-- The snapshot that the look is given. -/
  input : Input S
  /-- The reply to a lookup, by identity. -/
  lookup : String → Reply S σ

/-- A look on record. -/
structure Entry (S σ : Type) where
  /-- The memory before the look. -/
  before : Memory S
  /-- The look. -/
  look : Look S σ
  /-- What came of it. -/
  turn : Turn S σ

section

variable [Snapshot S σ]

namespace Entry

/-- The snapshot that the look was given. -/
def input (e : Entry S σ) : Option S := e.look.input.resolve e.before

/-- The identity of that snapshot, if it had one. -/
def identity? (e : Entry S σ) : Option String := e.input.bind Snapshot.id?

/-- The subject of the look, with its identity. -/
def subject? (e : Entry S σ) : Option (String × S) := StatusWait.subject? e.before e.input

/-- The answer that the look got, if it made a lookup. -/
def answer? (e : Entry S σ) : Option (Answer S) :=
  e.turn.asked.head?.map fun id => (e.look.lookup id).answer

/-- How the look ended, if it had a subject: with an answer, or without a lookup. -/
def ending? (e : Entry S σ) : Option (Option (Answer S)) := e.subject?.map fun _ => e.answer?

end Entry

namespace Config

variable [DecidableEq σ] [Status σ]

/-- The entry of one look. -/
def look (c : Config σ) (m : Memory S) (l : Look S σ) : Entry S σ :=
  ⟨m, l, c.evaluate m (l.input.resolve m) l.lookup⟩

/-- The entries of looks made one after the other. -/
def run (c : Config σ) : Memory S → List (Look S σ) → List (Entry S σ)
  | _, [] => []
  | m, l :: ls => c.look m l :: c.run (c.look m l).turn.memory ls

/-- The memory after looks made one after the other. -/
def after (c : Config σ) (m : Memory S) (ls : List (Look S σ)) : Memory S :=
  ls.foldl (fun m l => (c.look m l).turn.memory) m

variable {c : Config σ} {m : Memory S} {l : Look S σ} {id : String} {s : S}

/-- What every look keeps true of the record and the memory is true after every run. -/
theorem run_induction (c : Config σ) {P : List (Entry S σ) → Memory S → Prop}
    (hlook : ∀ {es : List (Entry S σ)} {m : Memory S}, P es m → ∀ l,
      P (es ++ [c.look m l]) (c.look m l).turn.memory) :
    ∀ {es : List (Entry S σ)} {m : Memory S}, P es m → ∀ ls, P (es ++ c.run m ls) (c.after m ls)
  | es, m, h, [] => by simpa [run, after] using h
  | es, m, h, l :: ls => by
    have ih := run_induction c hlook (hlook h l) ls
    simpa [run, after] using ih

theorem run_concat (c : Config σ) (m : Memory S) (ls : List (Look S σ)) (l : Look S σ) :
    c.run m (ls ++ [l]) = c.run m ls ++ [c.look (c.after m ls) l] := by
  induction ls generalizing m with
  | nil => rfl
  | cons l' ls ih =>
    simp only [List.cons_append, run, after, List.foldl_cons]
    rw [ih]
    rfl

/-- The record of a run shows its looks. -/
theorem run_map_look (c : Config σ) (m : Memory S) (ls : List (Look S σ)) :
    (c.run m ls).map Entry.look = ls := by
  induction ls generalizing m with
  | nil => rfl
  | cons l ls ih =>
    rw [run, List.map_cons, ih]
    rfl

/-! ### The shapes of an entry -/

theorem look_absent (h : (c.look m l).subject? = none) : (c.look m l).turn =
    if m.refreshAttempted then ⟨.fail, m.looked, [.gone c.target], []⟩
    else ⟨.retry, m.looked, [.nothingYet], []⟩ :=
  evaluate_absent h

theorem look_decided (h : (c.look m l).subject? = some (id, s))
    (hs : c.standing (Snapshot.status s) ≠ .transitional) : (c.look m l).turn =
    ⟨c.verdict s, m.looked.remember (some s), [(c.settle id s).event], []⟩ :=
  evaluate_decided h hs

theorem look_transitional (h : (c.look m l).subject? = some (id, s))
    (hs : c.standing (Snapshot.status s) = .transitional) : (c.look m l).turn =
    ⟨(c.weigh id s (l.lookup id).answer).decision,
      m.looked.lookedUp.remember (c.weigh id s (l.lookup id).answer).lastSeen,
      .inconclusive id (Snapshot.status s) :: (l.lookup id).log ++
        [(c.weigh id s (l.lookup id).answer).event], [id]⟩ :=
  evaluate_transitional h hs

theorem memory_look_absent (h : (c.look m l).subject? = none) :
    (c.look m l).turn.memory = m.looked := by
  rw [look_absent h]
  split <;> rfl

/-- A look with a subject decides as the snapshot calls for that it remembers. -/
theorem decision_look {p : String × S} (h : (c.look m l).subject? = some p) :
    (c.look m l).turn.decision = (c.look m l).turn.memory.lastSeen.elim .retry c.verdict :=
  decision_of_subject h

/-- Only the identity of the subject is looked up. -/
theorem subject?_of_mem_asked (h : id ∈ (c.look m l).turn.asked) :
    ∃ s, (c.look m l).subject? = some (id, s) := by
  cases hs : (c.look m l).subject? with
  | none =>
    rw [look_absent hs] at h
    split at h <;> cases h
  | some p =>
    by_cases ht : c.standing (Snapshot.status p.2) = .transitional
    · rw [look_transitional hs ht, List.mem_singleton] at h
      exact ⟨p.2, by rw [h]⟩
    · rw [look_decided hs ht] at h
      cases h

/-- A look gets an answer exactly when its subject decides nothing. -/
theorem answer?_look : (c.look m l).answer? = (c.look m l).subject?.bind fun p =>
    if c.standing (Snapshot.status p.2) = .transitional then some (l.lookup p.1).answer else none := by
  cases h : (c.look m l).subject? with
  | none =>
    rw [Entry.answer?, look_absent h]
    split <;> rfl
  | some p =>
    by_cases hs : c.standing (Snapshot.status p.2) = .transitional
    · rw [Entry.answer?, look_transitional h hs]
      simp [hs, look]
    · rw [Entry.answer?, look_decided h hs]
      simp [hs]

/-- A look with a subject ends the wait when the subject calls for it, or a fresh snapshot of the
same resource. -/
theorem decision_look_eq_iff {d : Decision} (hd : d ≠ .retry)
    (h : (c.look m l).subject? = some (id, s)) : (c.look m l).turn.decision = d ↔
    c.verdict s = d ∨
      ∃ f, (c.look m l).answer? = some (.found f) ∧ Snapshot.id? f = some id ∧ c.verdict f = d := by
  by_cases hs : c.standing (Snapshot.status s) = .transitional
  · have hv : c.verdict s ≠ d := by
      rw [verdict_eq_retry_iff.2 hs]
      exact hd.symm
    rw [look_transitional h hs, answer?_look, h]
    simp [hs, hv, decision_weigh_eq_iff hd]
  · rw [answer?_look, look_decided h hs, h]
    simp [hs]

end Config

/-- Two looks in trouble: a node on its way is handed in and the lookup is lost; then the wait is
given what it remembers, and the answer is about another node. -/
def troubledLooks : List (Look Node NodeStatus) :=
  [⟨.given (some (.new "n1" .pending)), fun id => ⟨.failed (.transport id "timed out"), []⟩⟩,
    ⟨.lastSeen, fun _ => ⟨.found (.new "n2" .running), []⟩⟩]

/-- The same looks and one more, with the answer that the node is gone. -/
def lostLooks : List (Look Node NodeStatus) :=
  troubledLooks ++ [⟨.lastSeen, fun _ => ⟨.gone, []⟩⟩]

end

/-! ### The last thing on record -/

/-- The last thing of some kind that a record shows. -/
def latest {α β : Type} (f : α → Option β) (es : List α) : Option β := (es.filterMap f).getLast?

section

variable {α β : Type} {f : α → Option β} {es : List α} {e : α}

@[simp] theorem latest_nil : latest f [] = none := rfl

theorem latest_concat : latest f (es ++ [e]) = (f e <|> latest f es) := by
  cases h : f e <;> simp [latest, h]

theorem latest_concat_of_none (h : f e = none) : latest f (es ++ [e]) = latest f es := by
  simp [latest_concat, h]

theorem latest_concat_of_some {b : β} (h : f e = some b) : latest f (es ++ [e]) = some b := by
  simp [latest_concat, h]

theorem latest_eq_none_iff : latest f es = none ↔ ∀ e ∈ es, f e = none := by
  simp [latest]

end

end StatusWait
