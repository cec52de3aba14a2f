/-!
# Similar words

When a command line names something that does not exist, the names that resemble it are
offered instead. Resemblance is the Jaro similarity of the two words, from 0 (nothing in
common) to 1 (equal):

* a character of one word *matches* an equal, not yet matched character of the other at most
  `max(|a|, |b|) / 2 - 1` places away, taking the first such;
* with `m` matches and `t` half the number of matched pairs that stand in a different order,
  the similarity is `(m/|a| + m/|b| + (m - t)/m) / 3`, and 0 without matches.

A name is offered when its similarity is above 0.7; several are offered from the least to the
most similar.

* `jaro` — the similarity of two words.
* `similarNames` — the names resembling a word.
-/

namespace JobQueue.Cli

/-- Match each character of `a`, in order, against the free characters of `b` within
`range` places; the flags of `a` and of `b` that matched. -/
def matchFlags (a b : List Char) (range : Nat) : List Bool × List Bool :=
  let step := fun (acc : List Bool × List Bool × Nat) (c : Char) =>
    let (aFlags, bFlags, i) := acc
    let lo := i - range
    let hi := min b.length (i + range + 1)
    let found := ((List.range hi).filter fun j => lo ≤ j).find? fun j =>
      b[j]? == some c && bFlags[j]? == some false
    match found with
    | some j => (aFlags ++ [true], bFlags.set j true, i + 1)
    | none => (aFlags ++ [false], bFlags, i + 1)
  let (aFlags, bFlags, _) := a.foldl step ([], List.replicate b.length false, 0)
  (aFlags, bFlags)

/-- The matched characters of a word, in order. -/
def matched (cs : List Char) (flags : List Bool) : List Char :=
  (cs.zip flags).filterMap fun (c, f) => if f then some c else none

/-- **The Jaro similarity of two words.** -/
def jaro (a b : String) : Float :=
  let a := a.toList
  let b := b.toList
  if a.isEmpty && b.isEmpty then 1.0
  else if a.isEmpty || b.isEmpty then 0.0
  else
    let range := max a.length b.length / 2 - 1
    let (aFlags, bFlags) := matchFlags a b range
    let ma := matched a aFlags
    let mb := matched b bFlags
    let m := ma.length
    let t := ((ma.zip mb).filter fun (x, y) => x != y).length / 2
    if m == 0 then 0.0
    else
      let mf := m.toFloat
      (mf / a.length.toFloat + mf / b.length.toFloat + (m - t).toFloat / mf) / 3.0

/-- **The names resembling `word`**, from the least to the most similar; of equally similar
names, in the order given. -/
def similarNames (word : String) (names : List String) : List String :=
  let scored := (names.map fun n => (jaro word n, n)).filter fun (s, _) => s > 0.7
  (scored.mergeSort fun x y => x.1 ≤ y.1).map (·.2)

end JobQueue.Cli
