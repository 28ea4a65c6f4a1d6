import GitGateway.Operation
import Mathlib.Data.List.TakeWhile

/-!
# Paths that name an operation

Which paths name which operation, for every text that can stand as a path.

- `Operation.Opens`: a text behind which a segment begins, because it is empty or ends in a
  slash; `Operation.slashes`: a run of slashes;
- `Operation.Names`: the paths that name an operation. Its service stands behind a text that
  opens a segment, and nothing but slashes comes after it;
- `Operation.exists_segment`: every path is the text in front of its last segment, that segment
  and slashes, so nothing is lost in looking for the segment;
- `Operation.lastSegment_spelled`: what is put together in that way has that segment as its last.
  Slashes behind a path and segments in front of it leave the last segment alone, and this is
  put together from the two;
- `Operation.path_names_service`: **a path is read as an operation exactly where it names it**,
  with what follows for paths that are longer, and for segments that only look like a service.

A run of slashes has no segment that is not empty. A text in front of it that ends in a segment
is then *not* left alone, so that statement is about paths that hold something else.
-/

namespace GitGateway.Operation

/-! ## Forms of a path -/

/-- A text behind which a segment begins: an empty one, or one that ends in a slash. -/
def Opens (front : String) : Prop :=
  front = "" ∨ ∃ rest, front = rest ++ "/"

/-- A run of slashes. -/
def slashes (count : Nat) : String :=
  String.ofList (List.replicate count '/')

@[simp] theorem toList_slashes (count : Nat) :
    (slashes count).toList = List.replicate count '/' :=
  String.toList_ofList

/-- A path names an operation if the service of the operation is a segment of its own and
nothing but slashes stands behind it. -/
inductive Names : String → Operation → Prop where
  | intro {front : String} (opens : Opens front) (operation : Operation) (count : Nat) :
      Names (front ++ operation.service ++ slashes count) operation

/-- From its end, a text that opens a segment is empty or starts with a slash. -/
theorem Opens.reverse {front : String} (opens : Opens front) :
    front.toList.reverse = [] ∨ ∃ more, front.toList.reverse = '/' :: more := by
  rcases opens with rfl | ⟨rest, rfl⟩
  · exact .inl rfl
  · right
    refine ⟨rest.toList.reverse, ?_⟩
    rw [String.toList_append, List.reverse_append]
    rfl

/-- What is empty or starts with a slash from its end opens a segment. -/
theorem Opens.of_reverse {chars : List Char}
    (border : chars = [] ∨ ∃ more, chars = '/' :: more) :
    Opens (String.ofList chars.reverse) := by
  rcases border with rfl | ⟨more, rfl⟩
  · exact .inl rfl
  · right
    refine ⟨String.ofList more.reverse, ?_⟩
    rw [List.reverse_cons, String.ofList_append]

/-! ## The last segment -/

/-- A segment ends where the text in front of it does. -/
theorem takeWhile_append_of_border {rest : List Char}
    (border : rest = [] ∨ ∃ more, rest = '/' :: more) (chars : List Char) :
    (chars ++ rest).takeWhile (· != '/') = chars.takeWhile (· != '/') := by
  have stops : rest.takeWhile (· != '/') = [] := by
    rcases border with rfl | ⟨more, rfl⟩
    · rfl
    · rfl
  induction chars with
  | nil => exact stops
  | cons c chars ih =>
    by_cases slash : c = '/'
    · simp [slash]
    · simp [slash, ih]

/-- **Slashes behind a path** leave its last segment. -/
theorem lastSegment_append_slashes (path : String) (count : Nat) :
    lastSegment (path ++ slashes count) = lastSegment path := by
  have skipped : (path ++ slashes count).toList.reverse.dropWhile (· == '/') =
      path.toList.reverse.dropWhile (· == '/') := by
    rw [String.toList_append, toList_slashes, List.reverse_append, List.reverse_replicate]
    refine List.dropWhile_append_of_pos fun c member => ?_
    rw [List.eq_of_mem_replicate member]
    rfl
  rw [lastSegment, skipped, lastSegment]

/-- **Segments in front of a path** leave its last segment, if the path has any. -/
theorem lastSegment_append_of_opens {front path : String} (opens : Opens front)
    (named : ∃ c ∈ path.toList, c ≠ '/') : lastSegment (front ++ path) = lastSegment path := by
  obtain ⟨c, member, other⟩ := named
  have left : path.toList.reverse.dropWhile (· == '/') ≠ [] := by
    intro nothing
    have slash := List.dropWhile_eq_nil_iff.mp nothing c (List.mem_reverse.mpr member)
    exact other (beq_iff_eq.mp slash)
  -- the slashes at the end are all in the path, so what is in front stays behind the rest of it
  have kept : (front ++ path).toList.reverse.dropWhile (· == '/') =
      path.toList.reverse.dropWhile (· == '/') ++ front.toList.reverse := by
    rw [String.toList_append, List.reverse_append, List.dropWhile_append, if_neg]
    rwa [List.isEmpty_iff]
  rw [lastSegment, kept, takeWhile_append_of_border opens.reverse, lastSegment]

/-- A text without slashes is its own last segment. -/
theorem lastSegment_of_not_mem {segment : String} (whole : '/' ∉ segment.toList) :
    lastSegment segment = segment.toList := by
  have other : ∀ c ∈ segment.toList.reverse, c ≠ '/' := by
    rintro c member rfl
    exact whole (List.mem_reverse.mp member)
  have kept : segment.toList.reverse.dropWhile (· == '/') = segment.toList.reverse := by
    rw [List.dropWhile_eq_self_iff]
    intro nonempty slash
    exact other _ (List.getElem_mem nonempty) (beq_iff_eq.mp slash)
  have taken : segment.toList.reverse.takeWhile (· != '/') = segment.toList.reverse := by
    rw [List.takeWhile_eq_self_iff]
    intro c member
    exact bne_iff_ne.mpr (other c member)
  rw [lastSegment, kept, taken, List.reverse_reverse]

/-- **What is put together from a segment**, something that opens it and slashes behind it has
that segment as its last. -/
theorem lastSegment_spelled {front segment : String} (opens : Opens front)
    (whole : '/' ∉ segment.toList) (nonempty : segment ≠ "") (count : Nat) :
    lastSegment (front ++ segment ++ slashes count) = segment.toList := by
  have named : ∃ c ∈ segment.toList, c ≠ '/' := by
    have some_char : segment.toList ≠ [] := by
      intro nothing
      exact nonempty (String.toList_inj.mp nothing)
    obtain ⟨c, member⟩ := List.exists_mem_of_ne_nil _ some_char
    refine ⟨c, member, ?_⟩
    rintro rfl
    exact whole member
  rw [lastSegment_append_slashes, lastSegment_append_of_opens opens named,
    lastSegment_of_not_mem whole]

/-- **Every path** is something that opens its last segment, that segment and slashes. -/
theorem exists_segment (path : String) : ∃ front count, Opens front ∧
    path = front ++ String.ofList (lastSegment path) ++ slashes count := by
  let chars := path.toList.reverse
  let left := chars.dropWhile (· == '/')
  have trailing : ∃ count, chars.takeWhile (· == '/') = List.replicate count '/' := by
    refine ⟨_, List.eq_replicate_iff.mpr ⟨rfl, fun c member => ?_⟩⟩
    have slash := List.mem_takeWhile_imp (p := (· == '/')) member
    exact beq_iff_eq.mp slash
  have border : left.dropWhile (· != '/') = [] ∨
      ∃ more, left.dropWhile (· != '/') = '/' :: more := by
    cases rest : left.dropWhile (· != '/') with
    | nil => exact .inl rfl
    | cons c more =>
      have stopped := List.head?_dropWhile_not (· != '/') left
      rw [rest] at stopped
      have slash : c = '/' := by simpa using stopped
      exact .inr ⟨more, by rw [slash]⟩
  obtain ⟨count, trailing⟩ := trailing
  refine ⟨String.ofList (left.dropWhile (· != '/')).reverse, count, Opens.of_reverse border, ?_⟩
  have spelled : path.toList = (left.dropWhile (· != '/')).reverse ++ lastSegment path ++
      List.replicate count '/' := by
    calc path.toList
      _ = (chars.takeWhile (· == '/') ++ left).reverse := by
          rw [List.takeWhile_append_dropWhile, List.reverse_reverse]
      _ = left.reverse ++ List.replicate count '/' := by
          rw [List.reverse_append, trailing, List.reverse_replicate]
      _ = (left.takeWhile (· != '/') ++ left.dropWhile (· != '/')).reverse ++
            List.replicate count '/' := by
          rw [List.takeWhile_append_dropWhile]
      _ = _ := by
          rw [List.reverse_append]
          rfl
  rw [← String.toList_inj, spelled]
  simp only [String.toList_append, String.toList_ofList, toList_slashes]

/-! ## The services -/

theorem service_ne_empty (operation : Operation) : operation.service ≠ "" := by
  cases operation <;> decide

theorem slash_not_mem_service (operation : Operation) : '/' ∉ operation.service.toList := by
  cases operation <;> decide

/-- A path is read as the operation whose service is its last segment. -/
theorem ofPath?_eq_some_iff {path : String} {operation : Operation} :
    ofPath? path = some operation ↔ lastSegment path = operation.service.toList := by
  have apart : (service .receivePack).toList ≠ (service .uploadPack).toList := by decide
  rw [ofPath?]
  by_cases push : lastSegment path = (service .receivePack).toList
  · rw [if_pos push, push]
    cases operation with
    | receivePack => exact iff_of_true rfl rfl
    | uploadPack => exact iff_of_false nofun apart
  · rw [if_neg push]
    by_cases fetch : lastSegment path = (service .uploadPack).toList
    · rw [if_pos fetch, fetch]
      cases operation with
      | receivePack => exact iff_of_false nofun apart.symm
      | uploadPack => exact iff_of_true rfl rfl
    · rw [if_neg fetch]
      refine iff_of_false nofun ?_
      cases operation with
      | receivePack => exact push
      | uploadPack => exact fetch

/-- Paths with the same last segment are read as the same. -/
theorem ofPath?_congr {path other : String} (same : lastSegment path = lastSegment other) :
    ofPath? path = ofPath? other := by
  rw [ofPath?, ofPath?, same]

/-- **A path is read as an operation exactly where it names it.** -/
theorem ofPath?_eq_some_iff_names {path : String} {operation : Operation} :
    ofPath? path = some operation ↔ Names path operation := by
  rw [ofPath?_eq_some_iff]
  constructor
  · intro last
    obtain ⟨front, count, opens, spelled⟩ := exists_segment path
    rw [last, String.ofList_toList] at spelled
    rw [spelled]
    exact .intro opens operation count
  · rintro ⟨opens, _, count⟩
    exact lastSegment_spelled opens (slash_not_mem_service operation)
      (service_ne_empty operation) count

/-- A path in which a segment that is no service comes last is read as no operation. -/
theorem ofPath?_spelled_eq_none {front segment : String} (opens : Opens front)
    (whole : '/' ∉ segment.toList) (nonempty : segment ≠ "")
    (other : ∀ operation : Operation, segment ≠ operation.service) (count : Nat) :
    ofPath? (front ++ segment ++ slashes count) = none := by
  rw [Option.eq_none_iff_forall_ne_some]
  intro operation found
  rw [ofPath?_eq_some_iff, lastSegment_spelled opens whole nonempty] at found
  exact other operation (String.toList_inj.mp found)

/-- A service with anything attached to it is no service. The two services have a letter each
that the other does not have, so neither is a part of the other. -/
theorem attached_ne_service {before after : String} (attached : before ++ after ≠ "")
    (operation other : Operation) : before ++ operation.service ++ after ≠ other.service := by
  intro same
  have chars : before.toList ++ operation.service.toList ++ after.toList =
      other.service.toList := by
    rw [← same, String.toList_append, String.toList_append]
  have inside : ∀ c ∈ operation.service.toList, c ∈ other.service.toList := by
    intro c member
    rw [← chars]
    exact List.mem_append_left _ (List.mem_append_right _ member)
  have push : 'r' ∈ (service .receivePack).toList ∧ 'r' ∉ (service .uploadPack).toList := by
    decide
  have fetch : 'u' ∈ (service .uploadPack).toList ∧ 'u' ∉ (service .receivePack).toList := by
    decide
  have equal : operation = other := by
    cases operation with
    | receivePack => cases other with
      | receivePack => rfl
      | uploadPack => exact absurd (inside 'r' push.1) push.2
    | uploadPack => cases other with
      | receivePack => exact absurd (inside 'u' fetch.1) fetch.2
      | uploadPack => rfl
  -- of one service there is no room for anything more
  have length := congrArg List.length chars
  rw [equal, List.length_append, List.length_append] at length
  have nothing : before.toList = [] ∧ after.toList = [] := by
    constructor
    · exact List.eq_nil_of_length_eq_zero (by omega)
    · exact List.eq_nil_of_length_eq_zero (by omega)
  refine attached (String.toList_inj.mp ?_)
  rw [String.toList_append, nothing.1, nothing.2]
  rfl

/-! ## All paths -/

/-- **Which path is read as which operation.**

- It is the one whose service is a segment of its own with nothing but slashes behind it; where
  there is none, it is none.
- More slashes behind a path make no difference, nor does anything in front of it that ends in
  a slash, if the path is not made of slashes alone.
- No path names two operations.
- A last segment that is no service is not recognised, such as a service in other letters, and
  neither is a service with anything in front of it or behind it in its segment. -/
theorem path_names_service (path : String) :
    (∀ operation, ofPath? path = some operation ↔ Names path operation) ∧
    (ofPath? path = none ↔ ∀ operation, ¬ Names path operation) ∧
    (∀ count, ofPath? (path ++ slashes count) = ofPath? path) ∧
    (∀ front, (∃ c ∈ path.toList, c ≠ '/') → ofPath? (front ++ "/" ++ path) = ofPath? path) ∧
    (∀ operation other, Names path operation → Names path other → operation = other) ∧
    (∀ front segment count, Opens front → '/' ∉ segment.toList → segment ≠ "" →
      (∀ operation : Operation, segment ≠ operation.service) →
      ofPath? (front ++ segment ++ slashes count) = none) ∧
    (∀ (front before after : String) (operation : Operation) (count : Nat), Opens front →
      '/' ∉ before.toList → '/' ∉ after.toList → before ++ after ≠ "" →
      ofPath? (front ++ (before ++ operation.service ++ after) ++ slashes count) = none) := by
  have named : ∀ operation, ofPath? path = some operation ↔ Names path operation :=
    fun operation => ofPath?_eq_some_iff_names
  refine ⟨named, ?unnamed, ?behind, ?inFront, ?one, ?segment, ?attached⟩
  case unnamed =>
    rw [Option.eq_none_iff_forall_ne_some]
    exact forall_congr' fun operation => not_congr (named operation)
  case behind =>
    intro count
    exact ofPath?_congr (lastSegment_append_slashes path count)
  case inFront =>
    intro front something
    exact ofPath?_congr (lastSegment_append_of_opens (.inr ⟨front, rfl⟩) something)
  case one =>
    intro operation other first second
    have same : some operation = some other :=
      ((named operation).mpr first).symm.trans ((named other).mpr second)
    exact Option.some.inj same
  case segment =>
    intro front segment count opens whole nonempty other
    exact ofPath?_spelled_eq_none opens whole nonempty other count
  case attached =>
    intro front before after operation count opens wholeBefore wholeAfter attached
    have whole : '/' ∉ (before ++ operation.service ++ after).toList := by
      rw [String.toList_append, String.toList_append, List.mem_append, List.mem_append]
      rintro ((inBefore | inside) | inAfter)
      · exact wholeBefore inBefore
      · exact slash_not_mem_service operation inside
      · exact wholeAfter inAfter
    have nonempty : before ++ operation.service ++ after ≠ "" := by
      intro nothing
      have chars : before.toList ++ operation.service.toList ++ after.toList = [] := by
        rw [← String.toList_append, ← String.toList_append, nothing]
        rfl
      have inner := (List.append_eq_nil_iff.mp (List.append_eq_nil_iff.mp chars).1).2
      exact service_ne_empty operation (String.toList_inj.mp inner)
    exact ofPath?_spelled_eq_none opens whole nonempty
      (fun other => attached_ne_service attached operation other) count

/-- A fetch behind an empty segment, with slashes on both sides, and a segment that only begins
like it. -/
theorem service_among_slashes :
    let path := "git-upload-pack//"
    let front := "//project.git/"
    Names path .uploadPack ∧ (∃ c ∈ path.toList, c ≠ '/') ∧ Opens front ∧
      ofPath? (front ++ "/" ++ path) = some .uploadPack ∧
      ofPath? (front ++ ("" ++ service .uploadPack ++ "?a=b") ++ slashes 1) = none := by
  intro path front
  have spelled : path = "" ++ service .uploadPack ++ slashes 2 := by decide
  have names : Names path .uploadPack := by
    rw [spelled]
    exact .intro (.inl rfl) .uploadPack 2
  have something : ∃ c ∈ path.toList, c ≠ '/' := ⟨'g', by decide, by decide⟩
  have opens : Opens front := .inr ⟨"//project.git", by decide⟩
  obtain ⟨named, -, -, inFront, -, -, attached⟩ := path_names_service path
  refine ⟨names, something, opens, ?_, ?_⟩
  · rw [inFront front something]
    exact (named .uploadPack).mpr names
  · exact attached front "" "?a=b" .uploadPack 1 opens (by decide) (by decide) (by decide)

end GitGateway.Operation
