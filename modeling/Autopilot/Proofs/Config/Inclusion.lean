import Autopilot.Proofs.Config.Marks
import Autopilot.Proofs.Config.RootFile
import Mathlib.Data.Set.Card

/-!
Loading while files and variables stay as they are. A loader that comes to a file leaves it
again, whatever happens in it, so each mark of a document is settled with the same files being
loaded as the marks before it. What becomes of a file is then a matter of its text and of what
becomes of its marks, and of nothing that was loaded before.
-/

namespace Autopilot

/-- Files and variables that stay as they are, and what is written in texts. Paths that are too long
lead nowhere, and a file is in some directory. -/
structure Setting where
  read : Path → Except ReadFault String
  lookup : String → Option String
  parse : String → Option Datum := Yaml.parse?
  longest : Nat
  length_le : ∀ {p : Path} {text : String}, read p = .ok text → p.text.utf8ByteSize ≤ longest
  isSome_parent : ∀ {p : Path} {text : String}, read p = .ok text → p.parent?.isSome

/-- The directory of a file. -/
def Path.directory (p : Path) : Path := p.parent?.getD ⟨""⟩

theorem Path.directory_of_parent {p dir : Path} (found : p.parent? = some dir) : p.directory = dir := by
  rw [Path.directory, found, Option.getD_some]

theorem Loading.included_of_parent {m : Type → Type} [Monad m] {base p dir : Path}
    (found : p.parent? = some dir) (name : String) :
    included base p (.text name) = (pure (dir.join ⟨name⟩) : Loading m Path) := by
  rw [included, found, Option.getD_some]

/-- The error is about how files are nested. -/
def LoadError.isNesting : LoadError → Bool
  | .circular _ | .tooDeep _ => true
  | _ => false

namespace Setting

variable (s : Setting)

def surroundings : Surroundings Id := ⟨s.read, s.lookup, s.parse⟩

/-- The document in a file. -/
def document (p : Path) : Except LoadError Datum :=
  match s.read p with
  | .error fault => .error (.unreadable p fault)
  | .ok text => match s.parse text with
    | none => .error (.malformed p)
    | some d => .ok d

/-- The scalar of a variable that is named, or of what is to be taken if it is not set. -/
def scalar : Datum → Except LoadError Datum
  | .text text =>
    let (name, fallback) := Loading.splitVariable text.toList
    match (if Loading.isVariableName name then s.lookup name else none).or fallback with
    | some value => .ok (Loading.ofVariable s.parse value)
    | none => .error (.unset name)
  | _ => .error .badVariable

/-- What becomes of a mark of a file, if it is known what becomes of files. -/
def outcomeOf (load : Path → Except LoadError Datum) (p : Path) : Mark → Except LoadError Datum
  | .file (.text name) => load (p.directory.join ⟨name⟩)
  | .file named => .error (.badInclude named)
  | .scalar named => s.scalar named

/-- What becomes of a file while some files are being loaded. -/
def outcome (s : Setting) : (depth : Nat) → List Path → Path → Except LoadError Datum
  | 0, _, p => .error (.tooDeep p)
  | depth + 1, files, p =>
    if files.any fun file => file.same p then .error (.circular p)
    else match s.document p with
      | .error error => .error error
      | .ok d => d.settle (s.outcomeOf (s.outcome depth (p :: files)) p)

/-- What becomes of the file of a path while some files are being loaded, if all paths are taken
from a base. -/
def outcomeFrom (s : Setting) (base : Path) :
    (depth : Nat) → List Path → Path → Except LoadError Datum
  | 0, _, path => .error (.tooDeep path)
  | depth + 1, files, path =>
    if files.any fun file => file.same (base.join path) then .error (.circular (base.join path))
    else match s.document (base.join path) with
      | .error error => .error error
      | .ok d =>
        d.settle (s.outcomeOf (s.outcomeFrom base depth (base.join path :: files)) (base.join path))

/-- The files that may still be entered. -/
def left (files : List Path) : Set Path :=
  {p | (∃ text, s.read p = .ok text) ∧ (files.any fun file => file.same p) = false}

variable {s} {files : List Path} {p : Path}

theorem finite_left : (s.left files).Finite := by
  refine (Path.finite_of_length s.longest).subset ?_
  rintro p ⟨⟨text, read⟩, _⟩
  exact s.length_le read

theorem read_of_document {d : Datum} (found : s.document p = .ok d) :
    ∃ text, s.read p = .ok text ∧ s.parse text = some d := by
  unfold document at found
  cases read : s.read p with
  | error fault =>
    rw [read] at found
    cases found
  | ok text =>
    rw [read] at found
    dsimp only at found
    cases parsed : s.parse text with
    | none =>
      rw [parsed] at found
      cases found
    | some d =>
      rw [parsed] at found
      cases found
      exact ⟨text, rfl, parsed⟩

theorem document_of_read {text : String} {d : Datum} (read : s.read p = .ok text)
    (parsed : s.parse text = some d) : s.document p = .ok d := by
  unfold document
  rw [read]
  dsimp only
  rw [parsed]

theorem document_not_nesting {error : LoadError} (failed : s.document p = .error error) :
    error.isNesting = false := by
  unfold document at failed
  split at failed
  · cases failed
    rfl
  · split at failed <;> cases failed
    rfl

theorem scalar_not_nesting {named : Datum} {error : LoadError} (failed : s.scalar named = .error error) :
    error.isNesting = false := by
  cases named with
  | text text =>
    unfold scalar at failed
    dsimp only at failed
    split at failed <;> cases failed
    rfl
  | _ =>
    cases failed
    rfl

theorem left_cons_lt {d : Datum} (found : s.document p = .ok d)
    (fresh : (files.any fun file => file.same p) = false) :
    (s.left (p :: files)).ncard < (s.left files).ncard := by
  refine Set.ncard_lt_ncard ⟨?_, fun all => ?_⟩ finite_left
  · rintro q ⟨readable, new⟩
    rw [List.any_cons, Bool.or_eq_false_iff] at new
    exact ⟨readable, new.2⟩
  · obtain ⟨text, read, _⟩ := read_of_document found
    have entered : p ∈ s.left (p :: files) := all ⟨⟨text, read⟩, fresh⟩
    have self : p.same p = true := decide_eq_true rfl
    have new := entered.2
    rw [List.any_cons, self, Bool.true_or] at new
    cases new

/-- A file that cannot be nested too deep comes to the same outcome at every larger depth. -/
theorem outcome_of_deeper {depth deeper : Nat} (deep : depth ≤ deeper)
    (lasting : ∀ q, s.outcome depth files p ≠ .error (.tooDeep q)) :
    s.outcome deeper files p = s.outcome depth files p := by
  induction depth generalizing deeper files p with
  | zero => exact absurd rfl (lasting p)
  | succ depth ih =>
    obtain ⟨deeper, rfl⟩ : ∃ n, deeper = n + 1 := ⟨deeper - 1, by omega⟩
    unfold outcome at lasting ⊢
    split
    next => rfl
    next fresh =>
      rw [if_neg fresh] at lasting
      cases found : s.document p with
      | error error => rfl
      | ok d =>
        rw [found] at lasting
        refine Datum.settle_of_agree (fun error => ∃ q, error = .tooDeep q) ?_ ?_
        · intro mark _ passes
          cases mark with
          | scalar named => rfl
          | file named =>
            cases named with
            | text name => exact ih (Nat.le_of_succ_le_succ deep) fun q => passes _ ⟨q, rfl⟩
            | _ => rfl
        · rintro _ ⟨q, rfl⟩
          exact lasting q

/-- Where an inclusion goes round or too deep: the file itself is being loaded already, or that
happens in a file that it includes, when all marks before have been settled. -/
theorem outcome_nesting {depth : Nat} {error : LoadError} (nests : error.isNesting = true)
    (failed : s.outcome (depth + 1) files p = .error error) :
    ((files.any fun file => file.same p) = true ∧ error = .circular p) ∨
    ∃ (d : Datum) (before after : List Mark) (name : String) (value : Mark → Datum),
      (files.any fun file => file.same p) = false ∧ s.document p = .ok d ∧
      d.marks = before ++ .file (.text name) :: after ∧
      (∀ mark ∈ before, s.outcomeOf (s.outcome depth (p :: files)) p mark = .ok (value mark)) ∧
      s.outcome depth (p :: files) (p.directory.join ⟨name⟩) = .error error := by
  unfold outcome at failed
  split at failed
  next again =>
    cases failed
    exact .inl ⟨again, rfl⟩
  next fresh =>
    rw [Bool.not_eq_true] at fresh
    refine .inr ?_
    cases found : s.document p with
    | error error =>
      rw [found] at failed
      cases failed
      cases nests.symm.trans (document_not_nesting found)
    | ok d =>
      rw [found] at failed
      dsimp only at failed
      rcases Datum.settle_cases (s.outcomeOf (s.outcome depth (p :: files)) p) d with
        ⟨_, _, told⟩ | ⟨value, before, after, mark, error, listed, values, fails, told⟩
      all_goals
        rw [told] at failed
        cases failed
      cases mark with
      | scalar named => cases nests.symm.trans (scalar_not_nesting fails)
      | file named =>
        cases named with
        | text name => exact ⟨d, before, after, name, value, fresh, rfl, listed, values, fails⟩
        | _ =>
          cases fails
          cases nests

/-- A file is not nested too deep if there are fewer files left to be entered. -/
theorem outcome_ne_tooDeep {depth : Nat} (few : (s.left files).ncard < depth) (q : Path) :
    s.outcome depth files p ≠ .error (.tooDeep q) := by
  induction depth generalizing files p with
  | zero => exact absurd few (Nat.not_lt_zero _)
  | succ depth ih =>
    intro failed
    rcases outcome_nesting rfl failed with ⟨_, same⟩ | ⟨d, _, _, _, _, fresh, found, _, _, fails⟩
    · cases same
    · have fewer := left_cons_lt found fresh
      exact ih (by omega) fails

/-- What becomes of a file if files may be nested as deep as there are files. -/
noncomputable def content (s : Setting) : List Path → Path → Except LoadError Datum :=
  s.outcome ((s.left []).ncard + 1)

theorem content_ne_tooDeep (files : List Path) (p q : Path) :
    s.content files p ≠ .error (.tooDeep q) := by
  refine outcome_ne_tooDeep (Nat.lt_succ_of_le (Set.ncard_le_ncard ?_ finite_left)) q
  rintro q ⟨readable, _⟩
  exact ⟨readable, rfl⟩

/-- That is what becomes of the file at every depth at which it is not nested too deep. -/
theorem outcome_eq_content {depth : Nat} (lasting : ∀ q, s.outcome depth files p ≠ .error (.tooDeep q)) :
    s.outcome depth files p = s.content files p := by
  rcases Nat.le_total depth ((s.left []).ncard + 1) with deep | shallow
  · exact (outcome_of_deeper deep lasting).symm
  · exact outcome_of_deeper shallow (content_ne_tooDeep files p)

theorem outcomeOf_content {depth : Nat} {mark : Mark} {value : Datum}
    (fine : s.outcomeOf (s.outcome depth files) p mark = .ok value) :
    s.outcomeOf (s.content files) p mark = .ok value := by
  cases mark with
  | scalar named => exact fine
  | file named =>
    cases named with
    | text name =>
      unfold outcomeOf at fine ⊢
      dsimp only at fine ⊢
      rwa [outcome_eq_content fun q failed => by rw [failed] at fine; cases fine] at fine
    | _ => cases fine

theorem outcome_of_depth {depth : Nat} (deep : (s.left []).ncard < depth) (files : List Path) (p : Path) :
    s.outcome depth files p = s.content files p :=
  outcome_of_deeper deep (content_ne_tooDeep files p)

/-- The content of a file in terms of that of the files it includes. -/
theorem content_eq (files : List Path) (p : Path) : s.content files p =
    if files.any fun file => file.same p then .error (.circular p)
    else match s.document p with
      | .error error => .error error
      | .ok d => d.settle (s.outcomeOf (s.content (p :: files)) p) := by
  rw [← outcome_of_depth (Nat.lt_succ_of_lt (Nat.lt_succ_self _)) files p]
  rfl

/-- A file that can be read and is not being loaded comes to what its marks come to. -/
theorem outcomeFrom_of_document {base path : Path} {d : Datum} (depth : Nat)
    (fresh : files.any (fun file => file.same (base.join path)) = false)
    (found : s.document (base.join path) = .ok d) :
    s.outcomeFrom base (depth + 1) files path =
      d.settle (s.outcomeOf (s.outcomeFrom base depth (base.join path :: files)) (base.join path)) := by
  rw [outcomeFrom, fresh, if_neg Bool.false_ne_true, found]

/-- From a base that leaves paths as they are, what becomes of a file does not depend on the base. -/
theorem outcomeFrom_eq {base : Path} (grounded : base.Grounded) (depth : Nat) (files : List Path)
    {p : Path} (stays : base.join p = p) :
    s.outcomeFrom base depth files p = s.outcome depth files p := by
  induction depth generalizing files p with
  | zero => rfl
  | succ depth ih =>
    unfold outcomeFrom outcome
    rw [stays]
    split
    · rfl
    · cases found : s.document p with
      | error error => rfl
      | ok d =>
        obtain ⟨text, read, _⟩ := read_of_document found
        obtain ⟨dir, parent⟩ := Option.isSome_iff_exists.1 (s.isSome_parent read)
        have same : s.outcomeOf (s.outcomeFrom base depth (p :: files)) p =
            s.outcomeOf (s.outcome depth (p :: files)) p := by
          funext mark
          cases mark with
          | scalar named => rfl
          | file named =>
            cases named with
            | text name =>
              unfold outcomeOf
              rw [Path.directory_of_parent parent]
              exact ih _ (grounded.join_from_parent parent stays ⟨name⟩)
            | _ => rfl
        dsimp only
        rw [same]

end Setting

namespace Loading

variable {α β : Type}

theorem run_bind_of_ok {part : Loading Id α} {files later : List Path} {value : α}
    (ended : part.run.run files = (.ok value, later)) (next : α → Loading Id β) :
    (part >>= next).run.run files = (next value).run.run later := by
  rw [bind_run, ended]
  rfl

theorem run_bind_of_error {part : Loading Id α} {files later : List Path} {error : LoadError}
    (failed : part.run.run files = (.error error, later)) (next : α → Loading Id β) :
    (part >>= next).run.run files = (.error error, later) := by
  rw [bind_run, failed]
  rfl

/-- A part of the loading comes to an outcome, and in the end the same files are being loaded as
in the beginning. -/
def Tells (part : Loading Id α) (files : List Path) (outcome : Except LoadError α) : Prop :=
  part.run.run files = (outcome, files)

theorem tells_pure (value : α) (files : List Path) : Tells (pure value) files (.ok value) := rfl

theorem tells_throw (error : LoadError) (files : List Path) :
    Tells (throw error : Loading Id α) files (.error error) := rfl

theorem Tells.bind {part : Loading Id α} {next : α → Loading Id β} {files : List Path}
    {first : Except LoadError α} {later : α → Except LoadError β} (told : Tells part files first)
    (after : ∀ value, Tells (next value) files (later value)) :
    Tells (part >>= next) files (first >>= later) := by
  cases first with
  | error error => exact run_bind_of_error told next
  | ok value => exact (run_bind_of_ok told next).trans (after value)

section Expand

variable {s : Setting} {base p : Path} {load : Path → Loading Id Datum} {files : List Path}

theorem fromVariable_tells (named : Datum) :
    Tells (fromVariable s.surroundings named) files (s.scalar named) := by
  cases named with
  | text text =>
    unfold fromVariable Setting.scalar
    rcases parts : splitVariable text.toList with ⟨name, fallback⟩
    simp only [parts]
    have taken (value : Option String) : Tells (match value.or fallback with
        | some value => pure (ofVariable s.parse value)
        | none => throw (.unset name)) files (match value.or fallback with
        | some value => .ok (ofVariable s.parse value)
        | none => .error (.unset name)) := by
      cases value.or fallback <;> rfl
    cases isVariableName name with
    | false => exact taken none
    | true =>
      have looked : Tells (ExceptT.lift (StateT.lift (s.surroundings.lookup name))) files
          (.ok (s.lookup name)) := rfl
      exact looked.bind taken
  | _ => rfl

/-- A mark is settled where it stands. -/
def settleMark (s : Setting) (base p : Path) (load : Path → Loading Id Datum) :
    Mark → Loading Id Datum
  | .file named => do load (← included base p named)
  | .scalar named => fromVariable s.surroundings named

theorem expand_tagged (tag : String) (content : Datum) :
    expand s.surroundings base p load (.tagged tag content) =
      match Mark.ofTag? tag with
      | some mark => settleMark s base p load (mark content)
      | none => do return .tagged tag (← expand s.surroundings base p load content) := by
  rw [expand]
  unfold Mark.ofTag?
  split
  next => rfl
  next =>
    split
    next => rfl
    next => rfl

variable {outcome : Mark → Except LoadError Datum}

mutual

/-- A document is settled by settling its marks one after another. -/
theorem expand_tells : ∀ d : Datum,
    (∀ mark ∈ d.marks, Tells (settleMark s base p load mark) files (outcome mark)) →
      Tells (expand s.surroundings base p load d) files (d.settle outcome)
  | .null, _ | .bool _, _ | .int _, _ | .real _, _ | .text _, _ => rfl
  | .list items, each => by
    rw [expand, Datum.settle, Datum.marks, Datum.replace, ← Datum.settled_map]
    exact (expandItems_tells items each).bind fun _ => tells_pure _ _
  | .table rows, each => by
    rw [expand, Datum.settle, Datum.marks, Datum.replace, ← Datum.settled_map]
    exact (expandRows_tells rows each).bind fun _ => tells_pure _ _
  | .tagged tag content, each => by
    rw [Datum.marks] at each
    rw [expand_tagged, Datum.settle, Datum.marks, Datum.replace]
    cases found : Mark.ofTag? tag with
    | some mark =>
      rw [found] at each
      dsimp only
      rw [Datum.settled_single]
      exact each (mark content) List.mem_cons_self
    | none =>
      rw [found] at each
      dsimp only
      rw [← Datum.settled_map]
      exact (expand_tells content each).bind fun _ => tells_pure _ _

theorem expandItems_tells : ∀ items : List Datum,
    (∀ mark ∈ Datum.marksItems items, Tells (settleMark s base p load mark) files (outcome mark)) →
      Tells (expandItems s.surroundings base p load items) files
        (Datum.settled outcome (Datum.marksItems items)
          (Datum.replaceItems (fun mark => Datum.valueOf (outcome mark)) items))
  | [], _ => rfl
  | item :: rest, each => by
    rw [Datum.marksItems, List.forall_mem_append] at each
    rw [expandItems, Datum.marksItems, Datum.replaceItems, ← Datum.settled_append]
    refine (expand_tells item each.1).bind fun _ => ?_
    exact (expandItems_tells rest each.2).bind fun _ => tells_pure _ _

theorem expandRows_tells : ∀ rows : List (Datum × Datum),
    (∀ mark ∈ Datum.marksRows rows, Tells (settleMark s base p load mark) files (outcome mark)) →
      Tells (expandRows s.surroundings base p load rows) files
        (Datum.settled outcome (Datum.marksRows rows)
          (Datum.replaceRows (fun mark => Datum.valueOf (outcome mark)) rows))
  | [], _ => rfl
  | (key, row) :: rest, each => by
    rw [Datum.marksRows, List.forall_mem_append] at each
    rw [expandRows, Datum.marksRows, Datum.replaceRows,
      ← Datum.settled_append _ _ _ _ fun value rest => (key, value) :: rest]
    refine (expand_tells row each.1).bind fun _ => ?_
    exact (expandRows_tells rest each.2).bind fun _ => tells_pure _ _

end

/-- A document without marks stays as it is. -/
theorem expand_of_unmarked {d : Datum} (unmarked : d.marks = []) :
    Tells (expand s.surroundings base p load d) files (.ok d) := by
  have none {motive : Mark → Prop} : ∀ mark ∈ d.marks, motive mark := by
    rw [unmarked]
    exact List.forall_mem_nil _
  let outcome : Mark → Except LoadError Datum := fun _ => .ok .null
  have told : Tells (expand s.surroundings base p load d) files (d.settle outcome) :=
    expand_tells d none
  have same : d.settle outcome = .ok (d.replace fun _ => .null) := Datum.settle_of_values none
  rwa [same, Datum.replace_of_unmarked unmarked] at told

end Expand

/-- A file that is entered and left is not among those being loaded afterwards. -/
theorem leaving_tells {part : Loading Id Datum} {files : List Path} {p : Path}
    {outcome : Except LoadError Datum} (fresh : files.any (fun file => file.same p) = false)
    (told : Tells part (p :: files) outcome) :
    Tells (do modify (p :: ·); leaving p part) files outcome := by
  unfold Tells
  rw [entered_run, told]
  change (outcome, (p :: files).filter fun file => !file.same p) = _
  rw [filter_cons_of_fresh fresh]

/-- From any base, a file comes to its outcome as seen from there. -/
theorem file_tells_from (s : Setting) (base : Path) (depth : Nat) (files : List Path) (path : Path) :
    Tells (file s.surroundings base depth path) files (s.outcomeFrom base depth files path) := by
  induction depth generalizing files path with
  | zero => rfl
  | succ depth ih =>
    unfold Tells Setting.outcomeFrom
    rw [file_run_of]
    cases fresh : files.any fun file => file.same (base.join path) with
    | true => rfl
    | false =>
      rw [if_neg Bool.false_ne_true, if_neg Bool.false_ne_true]
      unfold Setting.document
      change (match s.read (base.join path) with
        | .error fault => _
        | .ok text => _) = _
      cases read : s.read (base.join path) with
      | error fault => rfl
      | ok text =>
        apply leaving_tells fresh
        dsimp only [Setting.surroundings]
        cases parsed : s.parse text with
        | none => exact tells_throw _ _
        | some d =>
          obtain ⟨dir, parent⟩ := Option.isSome_iff_exists.1 (s.isSome_parent read)
          refine expand_tells d fun mark _ => ?_
          cases mark with
          | scalar named => exact fromVariable_tells named
          | file named =>
            cases named with
            | text name =>
              unfold settleMark Setting.outcomeOf
              dsimp only
              rw [included_of_parent parent, Path.directory_of_parent parent, pure_bind]
              exact ih _ _
            | _ => rfl

/-- From a base that leaves paths as they are, a file comes to its outcome. -/
theorem file_tells (s : Setting) {base : Path} (grounded : base.Grounded) (depth : Nat)
    (files : List Path) {p : Path} (stays : base.join p = p) :
    Tells (file s.surroundings base depth p) files (s.outcome depth files p) := by
  rw [← Setting.outcomeFrom_eq grounded depth files stays]
  exact file_tells_from s base depth files p

theorem file_join (s : Setting) {base : Path} (grounded : base.Grounded) (depth : Nat) (p : Path) :
    file s.surroundings base (depth + 1) (base.join p) = file s.surroundings base (depth + 1) p := by
  unfold file
  rw [grounded.join_join]

end Loading

/-- Loading comes to the content of the root file if there is depth enough. -/
theorem Setting.loading_ends (s : Setting) {base : Path} (grounded : base.Grounded) (root : Path) :
    ∃ enough, ∀ depth, enough ≤ depth →
      (Loading.file s.surroundings base depth root).run.run [] =
        (s.content [] (base.join root), []) := by
  refine ⟨(s.left []).ncard + 1, fun depth deep => ?_⟩
  obtain ⟨depth, rfl⟩ : ∃ n, depth = n + 1 := ⟨depth - 1, by omega⟩
  rw [← outcome_of_depth deep, ← Loading.file_join s grounded]
  exact Loading.file_tells s grounded (depth + 1) [] (grounded.join_join root)

theorem Setting.loadDatum_eq (s : Setting) {base : Path} (grounded : base.Grounded) (root : Path) :
    loadDatum s.surroundings base root = s.outcome maxIncludes [] (base.join root) := by
  have loaded := Loading.file_tells s grounded maxIncludes [] (grounded.join_join root)
  have depth : maxIncludes = (maxIncludes - 1) + 1 := rfl
  rw [depth, Loading.file_join s grounded, ← depth] at loaded
  exact congrArg Prod.fst loaded

end Autopilot
