/-!
# Similar words

The Jaro similarity of two words: the mean of three shares, those of the common
characters in either word, and that of the common characters in order among all that
are common. Characters are common if they stand close to one another; of those out of
order only half count.

- `Similarity.pair` — the common characters of two words;
- `Similarity.jaro` — the similarity;
- `Similarity.closest?` — the most similar of some words, if it is similar enough.

The mean is a floating-point number: where it comes near the threshold, rounding is
part of the answer.
-/

namespace GitGateway.Similarity

/-- Marks the first unmarked `c` between two places of a word. -/
def mark? (c : Char) (low high place : Nat) : List (Char × Bool) → Option (List (Char × Bool))
  | [] => none
  | (d, marked) :: rest =>
    if low ≤ place && place < high && d == c && !marked then
      some ((d, true) :: rest)
    else
      (mark? c low high (place + 1) rest).map ((d, marked) :: ·)

/-- The characters of the first word that find a partner, and the second word with
the partners marked. -/
def pair (reach : Nat) : Nat → List Char → List (Char × Bool) → List Char × List (Char × Bool)
  | _, [], second => ([], second)
  | place, c :: rest, second =>
    match mark? c (place - reach) (place + reach + 1) 0 second with
    | some second =>
      let (found, second) := pair reach (place + 1) rest second
      (c :: found, second)
    | none => pair reach (place + 1) rest second

/-- One number over another. -/
def share (part whole : Nat) : Float :=
  Float.ofNat part / Float.ofNat whole

/-- The similarity of two words. -/
def jaro (first second : List Char) : Float :=
  let reach := max first.length second.length / 2 - 1
  let (found, marked) := pair reach 0 first (second.map (·, false))
  let partners := (marked.filter Prod.snd).map Prod.fst
  let common := found.length
  let crossed := ((found.zip partners).filter fun (c, d) => c != d).length / 2
  if common = 0 then 0
  else
    (share common first.length + share common second.length +
      share (common - crossed) common) / 3

/-- Words that are no more similar than this are not. -/
def threshold : Float := 0.7

/-- The most similar of some words, the last one if there are several, if it is
similar at all. -/
def closest? (word : String) (candidates : List String) : Option String :=
  let scored := candidates.map fun candidate => (jaro word.toList candidate.toList, candidate)
  let good := scored.filter fun entry => threshold < entry.1
  (good.foldl (fun best entry =>
    match best with
    | none => some entry
    | some other => if entry.1 < other.1 then some other else some entry) none).map Prod.snd

end GitGateway.Similarity
