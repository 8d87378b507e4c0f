import ExitParity.Host.Applets.Modes

/-! The programs that copy files, move them and give them more names. -/

namespace ExitParity

/-- What a copy of a file is. -/
inductive CopyKind where
  | content
  | name
  | link
  deriving DecidableEq

/-- How files are copied. -/
structure CopyStyle where
  kind : CopyKind
  recursive : Bool
  /-- Whether links are followed: those named, and those met further down. -/
  followsNamed : Bool
  followsMet : Bool
  force : Bool
  keepsOld : Bool
  updates : Bool
  removesFirst : Bool
  preserves : Bool
  verbose : Bool

namespace Program

/-- Write a file's whole content. -/
def writeFile (program : Program) (path : Bytes) (mode : Nat) (bytes : Bytes) : Deed (Except InputFault Unit) := do
  match ← program.openTarget path ⟨true, false, true, mode⟩ false with
  | .error errno => return .error (.unopened errno)
  | .ok descriptor =>
    let written ← program.write descriptor bytes
    program.close descriptor
    return written.mapError .unread

/-- Copy a file's content to a path. -/
def copyContent (program : Program) (style : CopyStyle) (source target : Bytes) (mode : Nat) (content : Content) :
    Deed Bool := do
  let mode ← if style.preserves then pure mode else program.allowed (mode &&& 0o777)
  let put : Deed (Except InputFault Unit) := match content with
    | .data bytes => program.writeFile target mode bytes
    | content => do
      let written ← program.change fun tree => do
        let isNew := (tree.node ⟨target⟩).toOption.isNone
        let tree ← tree.write ⟨target⟩ content
        if isNew then tree.setMode ⟨target⟩ mode else return tree
      return written.mapError .unopened
  let written ← match ← put with
    | .error (.unopened .denied) =>
      if style.force && (← program.change (·.unlink ⟨target⟩)).toOption.isSome then put
      else pure (.error (.unopened .denied))
    | result => pure result
  match written with
  | .ok () =>
    if style.preserves then
      let _ ← program.change fun tree => do
        let time := (tree.number ⟨source⟩).toOption.elim tree.now tree.timeOf
        return (← tree.setMode ⟨target⟩ mode).setTime (← tree.number ⟨target⟩) time
    return true
  | .error (.unread errno) =>
    program.complainOf (utf8 "error writing " ++ Quoting.always target) errno
    return false
  | .error (.unopened errno) =>
    program.complainOf (utf8 "cannot create regular file " ++ Quoting.always target) errno
    return false

/-- Whether two paths lead to one node. -/
def areSame (tree : FileTree) (source target : Bytes) : Bool :=
  match tree.number ⟨source⟩, tree.number ⟨target⟩ with
  | .ok one, .ok other => one == other
  | _, _ => false

/-- A copying as a whole: what was named as its source and its target, and the
directory made for it. -/
structure CopyRoot where
  source : Bytes
  target : Bytes
  made : Option Nat

/-- Copy a node with all that is below it. -/
def copyNode (program : Program) (style : CopyStyle) : Nat → Option CopyRoot → Bytes → Bytes → Deed Bool
  | 0, _, _, _ => return false
  | fuel + 1, root?, source, target => do
    let tree ← program.tree
    let follows := if root?.isNone then style.followsNamed else style.followsMet
    let complain (words : Bytes) (errno : Errno) : Deed Bool := do
      program.complainOf words errno
      return false
    let refuse (words : Bytes) : Deed Bool := do
      program.complain words
      return false
    let tell : Deed Unit := do
      if style.verbose then program.print (Quoting.always source ++ utf8 " -> " ++ Quoting.always target ++ [0x0a])
    match if follows then tree.node ⟨source⟩ else tree.entryNode ⟨source⟩ with
    | .error errno => complain (utf8 "cannot stat " ++ Quoting.always source) errno
    | .ok node =>
      let exists_ := (tree.entryNode ⟨target⟩).toOption
      let isFolder := match node with
        | .directory .. => true
        | _ => false
      if isFolder && !style.recursive then
        return ← refuse (utf8 "-r not specified; omitting directory " ++ Quoting.always source)
      if let some made := root?.bind (·.made) then
        if (tree.number ⟨source⟩).toOption == some made && isFolder then
          return ← refuse (utf8 "cannot copy a directory, " ++ Quoting.always ((root?.map (·.source)).getD []) ++
            utf8 ", into itself, " ++ Quoting.always ((root?.map (·.target)).getD []))
      if !isFolder && exists_.isSome then
        if style.keepsOld then return true
        let isOlder := match tree.number ⟨source⟩, tree.number ⟨target⟩ with
          | .ok one, .ok other => tree.timeOf one ≤ tree.timeOf other
          | _, _ => false
        if style.updates && isOlder then return true
      let sameEntry := match tree.locateEntry ⟨source⟩, tree.locateEntry ⟨target⟩ with
        | .ok (.found one _), .ok (.found other _) => one == other
        | _, _ => false
      if sameEntry || (areSame tree source target && !style.removesFirst && (follows || isFolder) && style.kind == .content) then
        return ← refuse (Quoting.always source ++ utf8 " and " ++ Quoting.always target ++ utf8 " are the same file")
      match isFolder, (tree.node ⟨target⟩).toOption with
      | false, some (.directory ..) =>
        return ← refuse (utf8 "cannot overwrite directory " ++ Quoting.always target ++ utf8 " with non-directory")
      | true, some (.directory ..) | _, none => pure ()
      | true, some _ =>
        return ← refuse (utf8 "cannot overwrite non-directory " ++ Quoting.always target ++ utf8 " with directory " ++
          Quoting.always source)
      | false, some _ => pure ()
      match node with
      | .directory mode _ _ _ =>
        let wanted ← if style.preserves then pure mode else program.allowed mode
        let isNew := !tree.isDirectory ⟨target⟩
        let made ← if isNew then program.change (·.makeDirectory ⟨target⟩ (wanted ||| 0o700)) else pure (Except.ok ())
        match made with
        | .error errno => complain (utf8 "cannot create directory " ++ Quoting.always target) errno
        | .ok () =>
          if isNew then tell
          let tree ← program.tree
          let root := root?.getD ⟨source, target, (tree.number ⟨target⟩).toOption⟩
          match tree.list ⟨source⟩ with
          | .error errno => complain (utf8 "cannot access " ++ Quoting.always source) errno
          | .ok entries =>
            let code ← forEach (fun name => program.copyNode style fuel (some root) (inside source name) (inside target name))
              (entries.map (·.1))
            if isNew then
              let _ ← program.change (·.setMode ⟨target⟩ wanted)
            return code == 0
      | node =>
        if style.removesFirst || (exists_.isSome && style.kind != .content && style.force) then
          let _ ← program.change (·.unlink ⟨target⟩)
        match style.kind, node with
        | .link, _ =>
          match ← program.change (·.makeLink ⟨target⟩ source) with
          | .ok () =>
            tell
            return true
          | .error errno =>
            complain (utf8 "cannot create symbolic link " ++ Quoting.always target ++ utf8 " to " ++ Quoting.always source) errno
        | .name, _ =>
          let made ← program.change fun tree => do
            match ← if follows then tree.locate ⟨source⟩ else tree.locateEntry ⟨source⟩ with
            | .found number _ => tree.addName number ⟨target⟩
            | .vacant .. => throw .noEntry
          match made with
          | .ok () =>
            tell
            return true
          | .error errno =>
            complain (utf8 "cannot create hard link " ++ Quoting.always target ++ utf8 " to " ++ Quoting.always source) errno
        | .content, .link text =>
          if exists_.isSome then
            let _ ← program.change (·.unlink ⟨target⟩)
          match ← program.change (·.makeLink ⟨target⟩ text) with
          | .ok () =>
            tell
            return true
          | .error errno => complain (utf8 "cannot create symbolic link " ++ Quoting.always target) errno
        | .content, node =>
          let dangles := match (← program.tree).entryNode ⟨target⟩, (← program.tree).node ⟨target⟩ with
            | .ok (.link _), .error .noEntry => true
            | _, _ => false
          if dangles then
            return ← refuse (utf8 "not writing through dangling symlink " ++ Quoting.always target)
          match node with
          | .file mode content =>
            if !FileTree.mayRead mode then
              return ← complain (utf8 "cannot open " ++ Quoting.always source ++ utf8 " for reading") .denied
            tell
            program.copyContent style source target mode content
          | _ =>
            match ← program.readFile ⟨source⟩ with
            | .error errno => complain (utf8 "cannot open " ++ Quoting.always source ++ utf8 " for reading") errno
            | .ok bytes =>
              tell
              program.copyContent style source target FileTree.newFileMode (.data bytes)

/-- Do something from every source to its place at the target. A single operand
can stand for a source whose place is in the working directory. -/
def toTarget (program : Program) (options : Options) (oneIsEnough : Bool) (step : Bytes → Bytes → Deed Bool) : Deed Nat := do
  let refuse (text : Bytes) : Deed Nat := do
    program.refuse text
    return 1
  let into (folder : Bytes) (sources : List Bytes) : Deed Nat :=
    forEach (fun source => step source (inside folder (nameOf source))) sources
  let tree ← program.tree
  match options.value? "t", options.operands with
  | _, [] => refuse (utf8 "missing file operand")
  | some folder, sources =>
    if tree.isDirectory ⟨folder⟩ then into folder sources
    else
      let errno := match tree.node ⟨folder⟩ with
        | .ok _ => Errno.notDirectory
        | .error errno => errno
      program.complainOf (utf8 (if oneIsEnough then "failed to access " else "target directory ") ++ Quoting.always folder) errno
      return 1
  | none, [source] =>
    if oneIsEnough && !options.has "T" then forEach (fun source => step source (utf8 "./" ++ nameOf source)) [source]
    else refuse (utf8 "missing destination file operand after " ++ Quoting.always source)
  | none, source :: others =>
    let target := others.getLast?.getD []
    if options.has "T" then
      match others.drop 1 with
      | extra :: _ => refuse (utf8 "extra operand " ++ Quoting.always extra)
      | [] => forEach (fun source => step source target) [source]
    else
      -- a link to a directory is a target itself for those who do not follow it
      let isFolder := tree.isDirectory ⟨target⟩ && !(options.has "no-dereference" && match tree.entryNode ⟨target⟩ with
        | .ok (.link _) => true
        | _ => false)
      if isFolder then into target (source :: others.dropLast)
      else if others.length == 1 then forEach (fun source => step source target) [source]
      else
        let errno := match tree.node ⟨target⟩ with
          | .ok _ => Errno.notDirectory
          | .error errno => errno
        program.complainOf (utf8 "target " ++ Quoting.always target) errno
        return 1

def copyGrammar : OptionGrammar where
  letters := "abdfHilLnprst:uvxPRS:TZ"
  long := [("archive", .flag, "a"), ("force", .flag, "f"), ("interactive", .flag, "i"), ("link", .flag, "l"),
    ("dereference", .flag, "L"), ("no-clobber", .flag, "n"), ("no-dereference", .flag, "P"),
    ("preserve", .perhapsValued, "p"), ("no-preserve", .valued, "no-preserve"), ("recursive", .flag, "r"),
    ("symbolic-link", .flag, "s"), ("target-directory", .valued, "t"), ("update", .perhapsValued, "u"),
    ("verbose", .flag, "v"), ("one-file-system", .flag, "x"), ("no-target-directory", .flag, "T"),
    ("remove-destination", .flag, "remove"), ("backup", .perhapsValued, "b"), ("suffix", .valued, "S"),
    ("reflink", .perhapsValued, "reflink"), ("sparse", .valued, "sparse"), ("parents", .flag, "parents")]
  permuted := true

def copy (program : Program) : Deed Nat :=
  program.withOptions copyGrammar 1 fun options => do
  let recursive := options.any ["r", "R", "a"]
  let following := options.last? ["L", "P", "H", "a", "d"]
  let style : CopyStyle := {
    kind := if options.has "l" then .name else if options.has "s" then .link else .content
    recursive
    followsNamed := match following with
      | some "L" | some "H" => true
      | some _ => false
      | none => !recursive
    followsMet := match following with
      | some "L" => true
      | some _ => false
      | none => !recursive
    force := options.has "f"
    keepsOld := options.last? ["n", "f", "i"] == some "n" || options.value? "u" == some (utf8 "none")
    updates := options.value? "u" == some []
    removesFirst := options.has "remove"
    preserves := options.any ["p", "a"]
    verbose := options.has "v" }
  if style.keepsOld && options.has "n" then
    program.complain (utf8 "warning: behavior of -n is non-portable and may change in future; use --update=none instead")
  program.toTarget options false (program.copyNode style depthLimit none)

def moveGrammar : OptionGrammar where
  letters := "bfint:uvS:TZ"
  long := [("force", .flag, "f"), ("interactive", .flag, "i"), ("no-clobber", .flag, "n"),
    ("target-directory", .valued, "t"), ("update", .perhapsValued, "u"), ("verbose", .flag, "v"),
    ("no-target-directory", .flag, "T"), ("backup", .perhapsValued, "b"), ("suffix", .valued, "S"),
    ("strip-trailing-slashes", .flag, "strip")]
  permuted := true

def move (program : Program) : Deed Nat :=
  program.withOptions moveGrammar 1 fun options =>
  program.toTarget options false fun source target => do
    let tree ← program.tree
    let refuse (words : Bytes) : Deed Bool := do
      program.complain words
      return false
    match tree.entryNode ⟨source⟩ with
    | .error errno =>
      program.complainOf (utf8 "cannot stat " ++ Quoting.always source) errno
      return false
    | .ok node =>
      let isFolder := match node with
        | .directory .. => true
        | _ => false
      let there := (tree.entryNode ⟨target⟩).toOption
      if there.isSome && options.last? ["n", "f", "i"] == some "n" then
        return ← refuse (utf8 "not replacing " ++ Quoting.always target)
      let isOlder := match tree.number ⟨source⟩, tree.number ⟨target⟩ with
        | .ok one, .ok other => tree.timeOf one ≤ tree.timeOf other
        | _, _ => false
      if options.has "u" && isOlder then return true
      let same := match tree.locateEntry ⟨source⟩, tree.locateEntry ⟨target⟩ with
        | .ok (.found one _), .ok (.found other _) => one == other
        | _, _ => false
      if same then
        return ← refuse (Quoting.always source ++ utf8 " and " ++ Quoting.always target ++ utf8 " are the same file")
      match isFolder, there with
      | false, some (.directory ..) =>
        return ← refuse (utf8 "cannot overwrite directory " ++ Quoting.always target ++ utf8 " with non-directory")
      | true, some (.directory ..) | _, none | false, some _ => pure ()
      | true, some _ =>
        return ← refuse (utf8 "cannot overwrite non-directory " ++ Quoting.always target ++ utf8 " with directory " ++
          Quoting.always source)
      match ← program.change (·.rename ⟨source⟩ ⟨target⟩) with
      | .ok () =>
        if options.has "v" then
          program.print (utf8 "renamed " ++ Quoting.always source ++ utf8 " -> " ++ Quoting.always target ++ [0x0a])
        return true
      | .error .invalid =>
        refuse (utf8 "cannot move " ++ Quoting.always source ++ utf8 " to a subdirectory of itself, " ++ Quoting.always target)
      | .error .notEmpty =>
        program.complainOf (utf8 "cannot overwrite " ++ Quoting.always target) .notEmpty
        return false
      | .error errno =>
        program.complainOf (utf8 "cannot move " ++ Quoting.always source ++ utf8 " to " ++ Quoting.always target) errno
        return false

def linkGrammar : OptionGrammar where
  letters := "bdfFiLnPrsS:t:Tv"
  long := [("force", .flag, "f"), ("symbolic", .flag, "s"), ("logical", .flag, "L"), ("physical", .flag, "P"),
    ("no-dereference", .flag, "no-dereference"), ("relative", .flag, "r"), ("target-directory", .valued, "t"),
    ("no-target-directory", .flag, "T"), ("verbose", .flag, "v"), ("backup", .perhapsValued, "b"),
    ("interactive", .flag, "i"), ("directory", .flag, "d")]
  permuted := true

def link (program : Program) : Deed Nat :=
  program.withOptions linkGrammar 1 fun options => do
  let options := if options.has "n" then { options with given := ("no-dereference", []) :: options.given } else options
  let symbolic := options.has "s"
  program.toTarget options true fun source target => do
    let tree ← program.tree
    let refuse (words : Bytes) : Deed Bool := do
      program.complain words
      return false
    let entry := if options.has "L" then tree.locate ⟨source⟩ else tree.locateEntry ⟨source⟩
    let fault? := match entry with
      | .ok (.found ..) => none
      | .ok (.vacant ..) => some Errno.noEntry
      | .error errno => some errno
    match symbolic, fault? with
    | false, some errno =>
      program.complainOf (utf8 "failed to access " ++ Quoting.always source) errno
      return false
    | _, _ =>
      if !symbolic && tree.isDirectory ⟨source⟩ && (tree.entryNode ⟨source⟩).toOption.any fun node =>
          match node with
          | .directory .. => true
          | _ => false then
        return ← refuse (Quoting.whenNeeded source ++ utf8 ": hard link not allowed for directory")
      let isThere := (tree.entryNode ⟨target⟩).toOption.isSome
      if isThere && options.has "f" then
        let same := match entry, tree.locateEntry ⟨target⟩ with
          | .ok (.found one _), .ok (.found other _) => one == other
          | _, _ => false
        if same && !symbolic then
          return ← refuse (Quoting.always source ++ utf8 " and " ++ Quoting.always target ++ utf8 " are the same file")
        let _ ← program.change (·.unlink ⟨target⟩)
      let text := if symbolic && options.has "r" then
          let folder := (tree.canonical .nothing true (directoryOf target)).toOption.getD []
          FileTree.relative folder ((tree.canonical .nothing true source).toOption.getD [])
        else source
      let made ← program.change fun tree => do
        if symbolic then tree.makeLink ⟨target⟩ text
        else match ← entry with
          | .found number _ => tree.addName number ⟨target⟩
          | .vacant .. => throw .noEntry
      match made with
      | .ok () =>
        if options.has "v" then
          program.print (Quoting.always target ++ utf8 (if symbolic then " -> " else " => ") ++ Quoting.always text ++ [0x0a])
        return true
      | .error errno =>
        let arrow := if symbolic || errno == .exists_ then [] else utf8 " => " ++ Quoting.always source
        program.complainOf ((if symbolic then utf8 "failed to create symbolic link " else
          utf8 "failed to create hard link ") ++ Quoting.always target ++ arrow) errno
        return false
where
  directoryOf (path : Bytes) : Bytes :=
    let parent := (⟨path⟩ : Path).parent.bytes
    if parent.isEmpty then Path.dot else parent

/-- The programs that take exactly so many operands. -/
def withExactly (program : Program) (count : Nat) (options : Options) (body : Deed Nat) : Deed Nat := do
  match options.operands.drop count with
  | extra :: _ =>
    program.refuse (utf8 "extra operand " ++ Quoting.curly extra)
    return 1
  | [] =>
    if options.operands.length == count then body
    else
      program.refuse (match options.operands.getLast? with
        | some last => utf8 "missing operand after " ++ Quoting.curly last
        | none => utf8 "missing operand")
      return 1

def addLink (program : Program) : Deed Nat :=
  program.withOptions ⟨"", [], true⟩ 1 fun options => program.withExactly 2 options do
  let source := options.operands.head?.getD []
  let target := options.operands.getLast?.getD []
  let made ← program.change fun tree => do
    match ← tree.locateEntry ⟨source⟩ with
    | .found number _ =>
      match tree.nodes[number]? with
      | some (.directory ..) => throw .notPermitted
      | _ => tree.addName number ⟨target⟩
    | .vacant .. => throw .noEntry
  match made with
  | .ok () => return 0
  | .error errno =>
    program.complainOf (utf8 "cannot create link " ++ Quoting.always target ++ utf8 " to " ++ Quoting.always source) errno
    return 1

def installGrammar : OptionGrammar where
  letters := "bcCsDdg:m:o:pt:TvS:Z"
  long := [("directory", .flag, "d"), ("mode", .valued, "m"), ("target-directory", .valued, "t"),
    ("no-target-directory", .flag, "T"), ("verbose", .flag, "v"), ("owner", .valued, "o"), ("group", .valued, "g"),
    ("preserve-timestamps", .flag, "p"), ("strip", .flag, "s"), ("compare", .flag, "C"), ("backup", .perhapsValued, "b")]
  permuted := true

def installFiles (program : Program) : Deed Nat :=
  program.withOptions installGrammar 1 fun options => do
  match (options.value? "m").elim (some (ModeChange.exactly 0o755)) ModeChange.ofText? with
  | none =>
    program.complain (utf8 "invalid mode " ++ Quoting.curly ((options.value? "m").getD []))
    return 1
  | some change =>
    let mode := change.apply 0 false 0
    if options.has "d" then
      if options.operands.isEmpty then
        program.refuse (utf8 "missing file operand")
        return 1
      forEach (fun path => do
        let made ← program.change fun tree => do
          let tree ← tree.makeDirectories ⟨path⟩ 0o755
          tree.setMode ⟨path⟩ mode
        match made with
        | .ok () => return true
        | .error errno =>
          program.complainOf (utf8 "cannot create directory " ++ Quoting.always path) errno
          return false) options.operands
    else
      let style : CopyStyle := ⟨.content, false, true, true, true, false, false, true, false, options.has "v"⟩
      if options.has "D" then
        let folder := match options.value? "t", options.operands.getLast? with
          | some folder, _ => folder
          | none, some target => (⟨target⟩ : Path).parent.bytes
          | none, none => []
        if !folder.isEmpty then
          let _ ← program.change (·.makeDirectories ⟨folder⟩ 0o755)
      program.toTarget options false fun source target => do
        if (← program.tree).isDirectory ⟨source⟩ then
          program.complain (utf8 "omitting directory " ++ Quoting.always source)
          return false
        if ← program.copyNode style depthLimit none source target then
          let _ ← program.change (·.setMode ⟨target⟩ mode)
          return true
        else return false

end Program
end ExitParity
