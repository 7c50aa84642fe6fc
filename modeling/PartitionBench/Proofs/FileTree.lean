import PartitionBench.FileTree
import PartitionBench.Proofs.FileName

/-!
Contract: what operations on a file tree leave as it is.

Owns:
- where a path leads, and that it leads there as long as directories stay;
- that making directories changes nothing that was there;
- that a file holds what was written to it, and that a write to one file leaves every
  other file as it is;
- that a file name in a directory leads to a place of that name, so that different names lead
  to different places;
- that making directories and writing a file change no file under another name.

Does not own: the files that are written (`Proofs.Batch.Scripts`).
-/

namespace PartitionBench.FileTree

/-! ## Nodes -/

theorem find?_putNode (location other : Location) (node : Node)
    (nodes : List (Location × Node)) :
    ((putNode location node nodes).find? fun entry => entry.1 = other).map (·.2) =
      if other = location then some node
      else (nodes.find? fun entry => entry.1 = other).map (·.2) := by
  induction nodes with
  | nil =>
      by_cases same : other = location
      · simp [putNode, same]
      · simp [putNode, same, Ne.symm same]
  | cons entry rest inductionHypothesis =>
      by_cases replaced : entry.1 = location
      · by_cases same : other = location
        · simp [putNode, replaced, same]
        · simp [putNode, replaced, same, Ne.symm same]
      · by_cases found : entry.1 = other
        · have different : other ≠ location := fun same => replaced (found.trans same)
          simp [putNode, found, different]
        · simp only [putNode, if_neg replaced, List.find?_cons, found, decide_false,
            inductionHypothesis]

theorem node?_put_same (tree : FileTree) {location : Location} (node : Node)
    (notRoot : location ≠ []) : (tree.put location node).node? location = some node := by
  unfold node? put
  rw [if_neg notRoot, find?_putNode, if_pos rfl]

theorem node?_put_other (tree : FileTree) {location other : Location} (node : Node)
    (different : other ≠ location) : (tree.put location node).node? other = tree.node? other := by
  unfold node? put
  rw [find?_putNode, if_neg different]

/-- The root is a directory. -/
theorem node?_root (tree : FileTree) : tree.node? [] = some .directory :=
  if_pos rfl

/-! ## Directories that stay -/

/-- All directories of a tree are directories of another, which has the same working
directory. -/
structure KeepsDirectories (tree after : FileTree) : Prop where
  workingDirectory : after.workingDirectory = tree.workingDirectory
  directories : ∀ location, tree.node? location = some .directory →
    after.node? location = some .directory

/-- All nodes of a tree are nodes of another, which has the same working directory. -/
structure Extends (tree after : FileTree) : Prop where
  workingDirectory : after.workingDirectory = tree.workingDirectory
  nodes : ∀ location node, tree.node? location = some node → after.node? location = some node

theorem Extends.refl (tree : FileTree) : Extends tree tree :=
  ⟨rfl, fun _ _ present => present⟩

theorem Extends.trans {first second third : FileTree} (left : Extends first second)
    (right : Extends second third) : Extends first third :=
  ⟨right.workingDirectory.trans left.workingDirectory,
    fun location node present => right.nodes location node (left.nodes location node present)⟩

theorem Extends.keepsDirectories {tree after : FileTree} (extension : Extends tree after) :
    KeepsDirectories tree after :=
  ⟨extension.workingDirectory, fun location => extension.nodes location .directory⟩

/-- A node where there was none comes in addition. -/
theorem put_extends (tree : FileTree) {location : Location} (node : Node)
    (free : tree.node? location = none) : Extends tree (tree.put location node) := by
  refine ⟨rfl, ?_⟩
  intro other present isThere
  have different : other ≠ location := by
    rintro rfl
    rw [free] at isThere
    cases isThere
  rw [node?_put_other tree node different]
  exact isThere

/-- A node in place of something that is no directory leaves the directories. -/
theorem put_keepsDirectories (tree : FileTree) {location : Location} (node : Node)
    (noDirectory : tree.node? location ≠ some .directory) :
    KeepsDirectories tree (tree.put location node) := by
  refine ⟨rfl, ?_⟩
  intro other isDirectory
  have different : other ≠ location := by
    rintro rfl
    exact noDirectory isDirectory
  rw [node?_put_other tree node different]
  exact isDirectory

/-! ## Where a path leads -/

/-- A path leads to a location, whether or not anything stands there. -/
def LeadsTo (tree : FileTree) (path : String) (location : Location) : Prop :=
  tree.locate path = .ok (location, tree.node? location)

theorem follow_kept {tree after : FileTree} (kept : KeepsDirectories tree after)
    {start location : Location} {names : List String}
    (followed : tree.follow start names = .ok location) :
    after.follow start names = .ok location := by
  induction names generalizing start with
  | nil => exact followed
  | cons name rest inductionHypothesis =>
      unfold follow at followed ⊢
      cases found : tree.node? start with
      | none =>
          rw [found] at followed
          cases followed
      | some node =>
          rw [found] at followed
          cases node with
          | file contents isExecutable => cases followed
          | directory =>
              rw [kept.directories start found]
              simp only at followed ⊢
              split
              next tooLong =>
                rw [if_pos tooLong] at followed
                cases followed
              next fits =>
                rw [if_neg fits] at followed
                exact inductionHypothesis followed

/-- What makes up the finding of a location. -/
theorem locate_ok {tree : FileTree} {path : String} {location : Location} {found : Option Node}
    (located : tree.locate path = .ok (location, found)) :
    found = tree.node? location ∧
      tree.follow (if path.startsWith "/" then [] else tree.workingDirectory) (names path) =
        .ok location := by
  unfold locate at located
  split at located
  · cases located
  · split at located
    · cases located
    · split at located
      · cases located
      · dsimp only at located
        split at located
        next reached followed =>
          cases located
          exact ⟨rfl, followed⟩
        next => cases located

theorem leadsTo_of_locate {tree : FileTree} {path : String} {location : Location}
    {found : Option Node} (located : tree.locate path = .ok (location, found)) :
    LeadsTo tree path location := by
  rw [LeadsTo, located, (locate_ok located).1]

/-- A path goes on leading where it led as long as the directories stay. -/
theorem LeadsTo.kept {tree after : FileTree} (kept : KeepsDirectories tree after)
    {path : String} {location : Location} (leads : LeadsTo tree path location) :
    LeadsTo after path location := by
  have followed := follow_kept kept (locate_ok leads).2
  rw [← kept.workingDirectory] at followed
  unfold LeadsTo locate at leads ⊢
  split at leads
  · cases leads
  next notEmpty =>
    split at leads
    · cases leads
    next noNull =>
      split at leads
      · cases leads
      next short =>
        rw [if_neg notEmpty, if_neg noNull, if_neg short]
        simp only [followed]

/-! ## Contents -/

/-- A path leads to a file with the given contents. -/
theorem contents_ok_iff {tree : FileTree} {path : String} {contents : Contents} :
    tree.contents path = .ok contents ↔
      ∃ location isExecutable, LeadsTo tree path location ∧
        tree.node? location = some (.file contents isExecutable) := by
  constructor
  · intro read
    unfold FileTree.contents look at read
    cases located : tree.locate path with
    | error kind =>
        rw [located] at read
        cases read
    | ok reached =>
        obtain ⟨location, found⟩ := reached
        rw [located] at read
        cases found with
        | none => cases read
        | some node =>
            cases node with
            | directory => cases read
            | file held isExecutable =>
                cases read
                exact ⟨location, isExecutable, leadsTo_of_locate located,
                  (locate_ok located).1.symm⟩
  · rintro ⟨location, isExecutable, leads, stands⟩
    unfold LeadsTo at leads
    unfold FileTree.contents look
    rw [leads, stands]

theorem contents_extends {tree after : FileTree} (extension : Extends tree after)
    {path : String} {contents : Contents} (holds : tree.contents path = .ok contents) :
    after.contents path = .ok contents := by
  obtain ⟨location, isExecutable, leads, stands⟩ := contents_ok_iff.mp holds
  exact contents_ok_iff.mpr ⟨location, isExecutable, leads.kept extension.keepsDirectories,
    extension.nodes location _ stands⟩

/-! ## Writing -/

/-- A write that succeeds puts the text where the path leads, which is no directory. -/
theorem write_ok {tree after : FileTree} {path text : String}
    (written : tree.write path text = .ok after) :
    ∃ location isExecutable, LeadsTo tree path location ∧
      tree.node? location ≠ some .directory ∧
      after = tree.put location (.file (.text text) isExecutable) := by
  unfold write at written
  cases located : tree.locate path with
  | error kind =>
      rw [located] at written
      cases written
  | ok reached =>
      obtain ⟨location, found⟩ := reached
      have isFound := (locate_ok located).1
      rw [located] at written
      cases found with
      | none =>
          cases written
          refine ⟨location, true, leadsTo_of_locate located, ?_, rfl⟩
          rw [← isFound]
          intro same
          cases same
      | some node =>
          cases node with
          | directory => cases written
          | file held isExecutable =>
              cases written
              refine ⟨location, isExecutable, leadsTo_of_locate located, ?_, rfl⟩
              rw [← isFound]
              intro same
              cases same

/-- A file holds the text that was written to it. -/
theorem contents_write {tree after : FileTree} {path text : String}
    (written : tree.write path text = .ok after) : after.contents path = .ok (.text text) := by
  obtain ⟨location, isExecutable, leads, noDirectory, rfl⟩ := write_ok written
  have notRoot : location ≠ [] := by
    rintro rfl
    exact noDirectory tree.node?_root
  exact contents_ok_iff.mpr ⟨location, isExecutable,
    leads.kept (put_keepsDirectories tree _ noDirectory), node?_put_same tree _ notRoot⟩

/-- A write leaves every file that the path written to does not lead to. -/
theorem contents_write_other {tree after : FileTree} {path text other : String}
    {contents : Contents} (written : tree.write path text = .ok after)
    (holds : tree.contents other = .ok contents)
    (apart : ∀ location, LeadsTo tree path location → ¬ LeadsTo tree other location) :
    after.contents other = .ok contents := by
  obtain ⟨location, isExecutable, leads, noDirectory, rfl⟩ := write_ok written
  obtain ⟨otherLocation, otherExecutable, otherLeads, stands⟩ := contents_ok_iff.mp holds
  have different : otherLocation ≠ location := by
    rintro rfl
    exact apart otherLocation leads otherLeads
  refine contents_ok_iff.mpr ⟨otherLocation, otherExecutable,
    otherLeads.kept (put_keepsDirectories tree _ noDirectory), ?_⟩
  rw [node?_put_other tree _ different]
  exact stands

/-! ## Making directories -/

theorem makeDirectory_extends {tree after : FileTree} {path : String}
    (made : tree.makeDirectory path = .ok after) : Extends tree after := by
  unfold makeDirectory at made
  cases located : tree.locate (withoutEndSlashes path) with
  | error kind =>
      rw [located] at made
      cases made
  | ok reached =>
      obtain ⟨location, found⟩ := reached
      rw [located] at made
      cases found with
      | some node => cases made
      | none =>
          cases made
          exact put_extends tree .directory (locate_ok located).1.symm

section Relates

variable {relation : FileTree → FileTree → Prop} (refl : ∀ tree, relation tree tree)
  (trans : ∀ {first second third}, relation first second → relation second third →
    relation first third)
  (byOne : ∀ {tree after path}, tree.makeDirectory path = .ok after → relation tree after)

include refl trans byOne

theorem makeInOrder_relates (tree : FileTree) (paths : List String) :
    relation tree (tree.makeInOrder paths).2 := by
  induction paths generalizing tree with
  | nil => exact refl tree
  | cons path rest inductionHypothesis =>
      unfold makeInOrder
      cases made : tree.makeDirectory path with
      | ok after => exact trans (byOne made) (inductionHypothesis after)
      | error kind =>
          simp only
          split
          · exact inductionHypothesis tree
          · exact refl tree

theorem makeFrom_relates (tree : FileTree) (inside : List String) (path : String)
    (around : List String) : relation tree (tree.makeFrom inside path around).2 := by
  induction around generalizing inside path with
  | nil => exact makeInOrder_relates refl trans byOne tree _
  | cons next around inductionHypothesis =>
      unfold makeFrom
      split
      · exact inductionHypothesis _ next
      · exact makeInOrder_relates refl trans byOne tree _

/-- What the making of one directory keeps is kept by the making of all that are missing on
the way to a path, even when it fails. -/
theorem makeDirectories_relates (tree : FileTree) (path : String) :
    relation tree (tree.makeDirectories path).2 :=
  makeFrom_relates refl trans byOne tree [] path _

end Relates

/-- Making directories changes nothing that was there, even when it fails. -/
theorem makeDirectories_extends (tree : FileTree) (path : String) :
    Extends tree (tree.makeDirectories path).2 :=
  makeDirectories_relates Extends.refl Extends.trans makeDirectory_extends tree path

/-! ## File names in a directory -/

theorem follow_concat {tree : FileTree} {start location : Location} {front : List String}
    {name : String} (followed : tree.follow start (front ++ [name]) = .ok location) :
    ∃ middle, tree.follow start front = .ok middle ∧ location = stepTo middle name := by
  induction front generalizing start with
  | nil =>
      refine ⟨start, rfl, ?_⟩
      rw [List.nil_append] at followed
      unfold follow at followed
      split at followed
      · cases followed
      · cases followed
      · split at followed
        · cases followed
        · cases followed
          rfl
  | cons first front inductionHypothesis =>
      rw [List.cons_append] at followed
      unfold follow at followed
      split at followed
      · cases followed
      · cases followed
      next isDirectory =>
        split at followed
        · cases followed
        next fits =>
          obtain ⟨middle, frontFollowed, isStep⟩ := inductionHypothesis followed
          refine ⟨middle, ?_, isStep⟩
          unfold follow
          rw [isDirectory]
          simp only [if_neg fits]
          exact frontFollowed

theorem stepTo_fileName (location : Location) {name : String}
    (isFile : Path.IsFileName name.toList) : stepTo location name = location ++ [name] := by
  have notEmpty : name ≠ "" := by
    rintro rfl
    exact isFile.notEmpty rfl
  have notSame : name ≠ "." := by
    rintro rfl
    exact isFile.notSame rfl
  have notOuter : name ≠ ".." := by
    rintro rfl
    exact isFile.notOuter rfl
  unfold stepTo
  rw [if_neg (not_or.mpr ⟨notEmpty, notSame⟩), if_neg notOuter]

/-- The path of a file name in a directory starts, and goes on up to the name, as the
directory alone decides. -/
theorem join_fileName_shape (directory : String) :
    ∃ (isAbsolute : Bool) (front : List String), ∀ name : String,
      Path.IsFileName name.toList →
        (Path.join directory name).startsWith "/" = isAbsolute ∧
          names (Path.join directory name) = front ++ [name] := by
  rcases Path.leadChars_shape directory.toList with nothing | ⟨before, closed⟩
  · refine ⟨false, [], ?_⟩
    intro name isFile
    have plain : (Path.join directory name).toList = name.toList := by
      rw [Path.join, String.toList_ofList, Path.joinChars_fileName _ isFile, nothing,
        List.nil_append]
    refine ⟨?_, ?_⟩
    · rw [String.startsWith_string_eq_false_iff, plain]
      intro slashFirst
      exact isFile.noSlash (slashFirst.subset List.mem_cons_self)
    · rw [names, plain, Text.pieces_whole isFile.noSlash]
      simp
  · refine ⟨['/'].isPrefixOf (before ++ ['/']), (Text.pieces '/' before).map String.ofList, ?_⟩
    intro name isFile
    have behind : (Path.join directory name).toList = before ++ '/' :: name.toList := by
      rw [Path.join, String.toList_ofList, Path.joinChars_fileName _ isFile, closed,
        List.append_assoc]
      rfl
    refine ⟨?_, ?_⟩
    · rw [Bool.eq_iff_iff, String.startsWith_string_iff, behind, List.isPrefixOf_iff_prefix]
      cases before with
      | nil => simp
      | cons c before => simp [List.cons_prefix_cons]
    · rw [names, behind, Text.pieces_append, Text.pieces_whole isFile.noSlash, List.map_append]
      simp

/-- A file name in a directory leads to a place of that name. -/
theorem leadsTo_fileName {tree : FileTree} {directory name : String} {location : Location}
    (isFile : Path.IsFileName name.toList)
    (leads : LeadsTo tree (Path.join directory name) location) :
    location.getLast? = some name := by
  obtain ⟨isAbsolute, front, shape⟩ := join_fileName_shape directory
  obtain ⟨start, ofNames⟩ := shape name isFile
  have followed := (locate_ok leads).2
  rw [start, ofNames] at followed
  obtain ⟨middle, _, isStep⟩ := follow_concat followed
  rw [isStep, stepTo_fileName middle isFile, List.getLast?_concat]

/-- Different file names in one directory lead to different places. -/
theorem leadsTo_fileName_injective {tree : FileTree} {directory first second : String}
    {location : Location} (firstIsFile : Path.IsFileName first.toList)
    (secondIsFile : Path.IsFileName second.toList)
    (firstLeads : LeadsTo tree (Path.join directory first) location)
    (secondLeads : LeadsTo tree (Path.join directory second) location) : first = second := by
  have firstName := leadsTo_fileName firstIsFile firstLeads
  rw [leadsTo_fileName secondIsFile secondLeads] at firstName
  exact (Option.some.inj firstName).symm

/-! ## Files under given names -/

/-- Two trees have the same files, but for those under some names. -/
def DifferOnlyIn (names : List String) (tree after : FileTree) : Prop :=
  ∀ location contents isExecutable, (∀ name ∈ names, location.getLast? ≠ some name) →
    (after.node? location = some (.file contents isExecutable) ↔
      tree.node? location = some (.file contents isExecutable))

theorem DifferOnlyIn.refl (tree : FileTree) : DifferOnlyIn [] tree tree :=
  fun _ _ _ _ => Iff.rfl

theorem DifferOnlyIn.trans {names more : List String} {first second third : FileTree}
    (left : DifferOnlyIn names first second) (right : DifferOnlyIn more second third) :
    DifferOnlyIn (names ++ more) first third := by
  intro location contents isExecutable apart
  obtain ⟨fromNames, fromMore⟩ := List.forall_mem_append.mp apart
  exact (right location contents isExecutable fromMore).trans
    (left location contents isExecutable fromNames)

theorem DifferOnlyIn.widen {names : List String} {tree after : FileTree}
    (differ : DifferOnlyIn names tree after) (more : List String) :
    DifferOnlyIn (names ++ more) tree after :=
  fun location contents isExecutable apart =>
    differ location contents isExecutable (List.forall_mem_append.mp apart).1

theorem makeDirectory_differOnlyIn {tree after : FileTree} {path : String}
    (made : tree.makeDirectory path = .ok after) : DifferOnlyIn [] tree after := by
  unfold makeDirectory at made
  cases located : tree.locate (withoutEndSlashes path) with
  | error kind =>
      rw [located] at made
      cases made
  | ok reached =>
      obtain ⟨location, found⟩ := reached
      rw [located] at made
      cases found with
      | some node => cases made
      | none =>
          have free : tree.node? location = none := (locate_ok located).1.symm
          have notRoot : location ≠ [] := by
            rintro rfl
            rw [node?_root] at free
            cases free
          cases made
          intro other contents isExecutable _
          by_cases same : other = location
          · -- the new node is a directory, so that no file stands there before or after
            rw [same, node?_put_same tree _ notRoot, free]
            simp
          · rw [node?_put_other tree _ same]

/-- Making directories changes no file. -/
theorem makeDirectories_differOnlyIn {tree after : FileTree} {path : String}
    {result : Except Fault Unit} (made : tree.makeDirectories path = (result, after)) :
    DifferOnlyIn [] tree after := by
  have kept := makeDirectories_relates DifferOnlyIn.refl (fun left right => left.trans right)
    makeDirectory_differOnlyIn tree path
  rw [made] at kept
  exact kept

/-- A write to a file name in a directory changes no file under another name. -/
theorem write_differOnlyIn {tree after : FileTree} {directory name text : String}
    (isFile : Path.IsFileName name.toList)
    (written : tree.write (Path.join directory name) text = .ok after) :
    DifferOnlyIn [name] tree after := by
  obtain ⟨location, isExecutable, leads, _, rfl⟩ := write_ok written
  intro other contents otherExecutable apart
  have different : other ≠ location := by
    rintro rfl
    exact apart name List.mem_cons_self (leadsTo_fileName isFile leads)
  rw [node?_put_other tree _ different]

end PartitionBench.FileTree
