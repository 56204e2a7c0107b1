import DatalogLexer.Scan
import DatalogLexer.Proofs.Reads

set_option autoImplicit false

namespace DatalogLexer

namespace Recognizer

/-- `winner` is the first recognizer of the list whose read of `input` is the largest: those
before it read strictly less, those after it no more. -/
def FirstLongest (recognizers : List Recognizer) (input : List Char) (winner : Recognizer) : Prop :=
  ∃ before after, recognizers = before ++ winner :: after ∧
    (∀ q ∈ before, q.read input < winner.read input) ∧
    ∀ q ∈ after, q.read input ≤ winner.read input

/-- The read of a best match so far, `0` before any. -/
def score : Option (Recognizer × Int) → Int
  | none => 0
  | some (_, read) => read

/-- The longest match over `recognizers` when `best` was the best match before them. -/
def longestFrom (input : List Char) (best : Option (Recognizer × Int))
    (recognizers : List Recognizer) : Option (Recognizer × Int) :=
  recognizers.foldl
    (fun best recognizer =>
      let read := recognizer.read input
      if ((best.map Prod.snd).getD 0) < read then some (recognizer, read) else best)
    best

theorem longest_eq_longestFrom (recognizers : List Recognizer) (input : List Char) :
    longest recognizers input = longestFrom input none recognizers := rfl

@[simp] theorem longestFrom_nil (input : List Char) (best : Option (Recognizer × Int)) :
    longestFrom input best [] = best := rfl

theorem longestFrom_cons (input : List Char) (best : Option (Recognizer × Int))
    (q : Recognizer) (rest : List Recognizer) :
    longestFrom input best (q :: rest) =
      longestFrom input (if score best < q.read input then some (q, q.read input) else best)
        rest := by
  cases best <;> rfl

theorem longestFrom_append (input : List Char) (best : Option (Recognizer × Int))
    (first second : List Recognizer) :
    longestFrom input best (first ++ second) =
      longestFrom input (longestFrom input best first) second :=
  List.foldl_append

namespace FirstLongest

variable {recognizers : List Recognizer} {input : List Char} {winner : Recognizer}

theorem mem (first : FirstLongest recognizers input winner) : winner ∈ recognizers := by
  obtain ⟨before, after, rfl, -, -⟩ := first
  simp

theorem lt_of_mem_takeWhile (first : FirstLongest recognizers input winner) {q : Recognizer}
    (member : q ∈ recognizers.takeWhile (· != winner)) : q.read input < winner.read input := by
  obtain ⟨before, after, rfl, shorter, -⟩ := first
  have others : ∀ p ∈ before, (p != winner) = true := by
    intro p early
    have less := shorter p early
    simp only [bne_iff_ne, ne_eq]
    rintro rfl
    exact Int.lt_irrefl _ less
  rw [List.takeWhile_append_of_pos others] at member
  simp only [List.takeWhile_cons, bne_self_eq_false, Bool.false_eq_true, ↓reduceIte,
    List.append_nil] at member
  exact shorter q member

theorem of_unique (member : winner ∈ recognizers) (distinct : recognizers.Nodup)
    (others : ∀ q ∈ recognizers, q ≠ winner → q.read input < winner.read input) :
    FirstLongest recognizers input winner := by
  obtain ⟨before, after, rfl⟩ := List.append_of_mem member
  obtain ⟨-, rest, disjoint⟩ := List.nodup_append.mp distinct
  have notBefore : winner ∉ before := fun early => disjoint winner early winner (by simp) rfl
  have notAfter : winner ∉ after := (List.nodup_cons.mp rest).1
  refine ⟨before, after, rfl, ?_, ?_⟩
  · intro q early
    exact others q (by simp [early]) (fun same => notBefore (same ▸ early))
  · intro q late
    exact Int.le_of_lt (others q (by simp [late]) (fun same => notAfter (same ▸ late)))

theorem append (first : FirstLongest recognizers input winner) {more : List Recognizer}
    (noLonger : ∀ q ∈ more, q.read input ≤ winner.read input) :
    FirstLongest (recognizers ++ more) input winner := by
  obtain ⟨before, after, rfl, shorter, later⟩ := first
  refine ⟨before, after ++ more, by simp, shorter, ?_⟩
  intro q member
  rcases List.mem_append.mp member with inside | outside
  · exact later q inside
  · exact noLonger q outside

/-- The first longest by position: the recognizer at an index whose read no recognizer exceeds and
every earlier one falls short of. -/
theorem of_getElem (i : Nat) (inside : i < recognizers.length)
    (noLonger : ∀ j (within : j < recognizers.length),
      recognizers[j].read input ≤ recognizers[i].read input)
    (earlier : ∀ j (within : j < recognizers.length), j < i →
      recognizers[j].read input < recognizers[i].read input) :
    FirstLongest recognizers input recognizers[i] := by
  have split : recognizers = recognizers.take i ++ recognizers[i] :: recognizers.drop (i + 1) := by
    rw [← List.drop_eq_getElem_cons inside, List.take_append_drop]
  refine ⟨recognizers.take i, recognizers.drop (i + 1), split, ?_, ?_⟩
  · intro q member
    obtain ⟨j, before, rfl⟩ := List.mem_take_iff_getElem.mp member
    exact earlier j (by omega) (by omega)
  · intro q member
    obtain ⟨j, within, rfl⟩ := List.mem_drop_iff_getElem.mp member
    exact noLonger (i + 1 + j) (by omega)

end FirstLongest

/-- The fold either keeps its start, when nothing reads more than the start's score, or ends on
the first longest recognizer, which reads more than the start's score. -/
theorem longestFrom_cases (input : List Char) (recognizers : List Recognizer) :
    ∀ best : Option (Recognizer × Int),
      (longestFrom input best recognizers = best ∧
          ∀ q ∈ recognizers, q.read input ≤ score best) ∨
        ∃ winner, longestFrom input best recognizers = some (winner, winner.read input) ∧
          score best < winner.read input ∧ FirstLongest recognizers input winner := by
  induction recognizers with
  | nil => intro best; exact .inl ⟨rfl, by simp⟩
  | cons q rest ih =>
    intro best
    rw [longestFrom_cons]
    by_cases longer : score best < q.read input
    · simp only [longer, ↓reduceIte]
      right
      rcases ih (some (q, q.read input)) with ⟨kept, noLonger⟩ | ⟨winner, found, beats, first⟩
      · exact ⟨q, kept, longer, [], rest, rfl, by simp, noLonger⟩
      · obtain ⟨before, after, split, shorter, later⟩ := first
        refine ⟨winner, found, Int.lt_trans longer beats, q :: before, after, by simp [split],
          ?_, later⟩
        intro p member
        rcases List.mem_cons.mp member with rfl | early
        · exact beats
        · exact shorter p early
    · simp only [longer, ↓reduceIte]
      rcases ih best with ⟨kept, noLonger⟩ | ⟨winner, found, beats, first⟩
      · refine .inl ⟨kept, ?_⟩
        intro p member
        rcases List.mem_cons.mp member with rfl | later
        · exact Int.le_of_not_gt longer
        · exact noLonger p later
      · obtain ⟨before, after, split, shorter, later⟩ := first
        refine .inr ⟨winner, found, beats, q :: before, after, by simp [split], ?_, later⟩
        intro p member
        rcases List.mem_cons.mp member with rfl | early
        · exact Int.lt_of_le_of_lt (Int.le_of_not_gt longer) beats
        · exact shorter p early

/-- The longest match is the first recognizer with the largest read, when that read is positive. -/
theorem longest_eq_some_iff {recognizers : List Recognizer} {input : List Char}
    {winner : Recognizer} {read : Int} :
    longest recognizers input = some (winner, read) ↔
      FirstLongest recognizers input winner ∧ winner.read input = read ∧ 0 < read := by
  constructor
  · intro found
    rw [longest_eq_longestFrom] at found
    rcases longestFrom_cases input recognizers none with ⟨kept, -⟩ | ⟨best, ended, beats, first⟩
    · rw [kept] at found
      cases found
    · rw [ended, Option.some.injEq, Prod.mk.injEq] at found
      obtain ⟨rfl, rfl⟩ := found
      exact ⟨first, rfl, beats⟩
  · rintro ⟨first, rfl, positive⟩
    obtain ⟨before, after, split, shorter, later⟩ := first
    have chosen : longestFrom input none (before ++ [winner]) =
        some (winner, winner.read input) := by
      rw [longestFrom_append]
      rcases longestFrom_cases input before none with ⟨kept, -⟩ | ⟨best, ended, beats, earlier⟩
      · rw [kept, longestFrom_cons]
        simp [score, positive]
      · rw [ended, longestFrom_cons]
        simp [score, shorter best earlier.mem]
    rw [longest_eq_longestFrom, split, ← List.singleton_append, ← List.append_assoc,
      longestFrom_append, chosen]
    rcases longestFrom_cases input after (some (winner, winner.read input)) with
      ⟨kept, -⟩ | ⟨best, -, beats, first⟩
    · exact kept
    · exact absurd (later best first.mem) (Int.not_le.mpr beats)

theorem longest_eq_none_iff {recognizers : List Recognizer} {input : List Char} :
    longest recognizers input = none ↔ ∀ q ∈ recognizers, q.read input ≤ 0 := by
  rw [longest_eq_longestFrom]
  rcases longestFrom_cases input recognizers none with ⟨kept, noLonger⟩ | ⟨best, ended, beats, first⟩
  · exact ⟨fun _ => noLonger, fun _ => kept⟩
  · rw [ended]
    constructor
    · intro found
      cases found
    · intro noneReads
      exact absurd (noneReads best first.mem) (Int.not_le.mpr beats)

theorem longest_congr {recognizers : List Recognizer} {input other : List Char}
    (same : ∀ q ∈ recognizers, q.read input = q.read other) :
    longest recognizers input = longest recognizers other := by
  rw [longest_eq_longestFrom, longest_eq_longestFrom]
  suffices ∀ best, longestFrom input best recognizers = longestFrom other best recognizers from
    this none
  induction recognizers with
  | nil => intro best; rfl
  | cons q rest ih =>
    intro best
    rw [longestFrom_cons, longestFrom_cons, same q (by simp)]
    exact ih (fun p member => same p (by simp [member])) _

end Recognizer

theorem frontWith_of_longest_some {recognizers : List Recognizer} {input : List Char}
    {winner : Recognizer} {read : Int}
    (found : Recognizer.longest recognizers input = some (winner, read)) :
    frontWith recognizers input =
      some (winner.kindOf (input.take read.toNat), input.take read.toNat) := by
  simp [frontWith, found]

theorem frontWith_of_longest_none {recognizers : List Recognizer} {c : Char} {rest : List Char}
    (none : Recognizer.longest recognizers (c :: rest) = none) :
    frontWith recognizers (c :: rest) = some (.undefined, [c]) := by
  simp [frontWith, none]

theorem frontWith_prefix {recognizers : List Recognizer} {input : List Char}
    {kind : Token.Kind} {text : List Char}
    (found : frontWith recognizers input = some (kind, text)) : text <+: input := by
  unfold frontWith at found
  split at found
  · simp only [Option.some.injEq, Prod.mk.injEq] at found
    rw [← found.2]
    exact List.take_prefix _ _
  · split at found
    · simp only [Option.some.injEq, Prod.mk.injEq] at found
      rw [← found.2]
      simp
    · cases found

end DatalogLexer
