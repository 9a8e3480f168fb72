/-
# Files

Tools that make, copy, move, link and remove files and directories.
-/
import SpeechConfig.Shell.Builtin.Places
import SpeechConfig.Shell.Permission
import SpeechConfig.Shell.Tool.Plain
import SpeechConfig.Shell.Tool.Show

namespace SpeechConfig.Shell.Tool

/-! ## Places -/

abbrev Walked := Except FileSystem.Fault FileSystem.Spot

/-- Where a path leads; links in the last place are followed if asked for. -/
def walkTo (follow : Bool) (path : String) : Act Walked := do
  return (← Act.files).walk (if follow then .follow else .keep) (pathOf path)

/-- A path without slashes at its end. -/
def unslashed (path : String) : String :=
  let cs := path.toList.reverse.dropWhile (· == '/')
  if cs.isEmpty then path else String.ofList cs.reverse

def inside (dir name : String) : String :=
  if dir.endsWith "/" then dir ++ name else dir ++ "/" ++ name

def isDirectoryPath (path : String) : Act Bool := do
  match ← walkTo true path with
  | .ok (.present _ .directory) => return true
  | _ => return false

def namesBelow (l : Location) : Act (List String) := do
  return (namesIn (← Act.files) l).mergeSort textLe

/-- Runs a part for each word, and returns the worst status. -/
def forAll (words : List String) (part : String → Act Nat) : Act Nat := do
  let mut status := 0
  for w in words do
    let one ← part w
    if one ≠ 0 then status := one
  return status

/-- Copies the permissions and the time of a place. -/
def copyManners (source target : Location) (n : Node) : Act Unit := do
  let mode ← Act.modeOf source n
  let plain ← Act.modeOf target n
  if mode ≠ plain then Act.setMode target mode
  Act.setTime target (← Act.timeOf source)

/-! ## Making -/

/-- Makes a directory and those above it. -/
def makeAll (verbose : Bool) (path : String) : Act Nat := do
  let parts := splitAll '/' path
  let mut here := ""
  let mut isFirst := true
  for p in parts do
    here := if isFirst then p else here ++ "/" ++ p
    isFirst := false
    if !p.isEmpty then
      match ← walkTo true here with
      | .ok (.present _ .directory) => pure ()
      | .ok (.present _ _) =>
        let reason := if here = unslashed path then "File exists" else "Not a directory"
        return ← report "mkdir" ("cannot create directory " ++ quotedName (if here = unslashed path then path else here) ++ ": " ++ reason)
      | .ok (.absent dir name) =>
        Act.putNode (name :: dir) .directory
        if verbose then Act.put 1 ("mkdir: created directory " ++ quotedName here ++ "\n")
      | .error fault =>
        return ← report "mkdir" ("cannot create directory " ++ quotedName here ++ ": " ++ fault.reason)
  return 0

def mkdir : Tool := fun _ args =>
  let style : FlagStyle :=
    { plain := "pvZ", valued := "m"
      long := [⟨"parents", 'p', false, false⟩, ⟨"verbose", 'v', false, false⟩, ⟨"mode", 'm', true, false⟩] }
  withGiven "mkdir" style args fun g => do
    let mask := (← Act.process).mask
    let mode := (g.value? 'm').map fun s => changedMode? true mask 511 s
    if g.operands.isEmpty then misuse "mkdir" "missing operand"
    else if mode = some none then report "mkdir" ("invalid mode " ++ quotedName ((g.value? 'm').getD ""))
    else forAll g.operands fun path => do
      let status ← if g.has 'p' then makeAll (g.has 'v') path
        else
          let refuse (reason : String) : Act Nat :=
            report "mkdir" ("cannot create directory " ++ quotedName path ++ ": " ++ reason)
          match ← walkTo false (unslashed path) with
          | .ok (.present _ _) => refuse "File exists"
          | .error fault => refuse fault.reason
          | .ok (.absent dir name) =>
            Act.putNode (name :: dir) .directory
            if g.has 'v' then Act.put 1 ("mkdir: created directory " ++ quotedName path ++ "\n")
            pure 0
      match mode, ← walkTo true path with
      | some (some m), .ok (.present l .directory) => if status = 0 then Act.setMode l m
      | _, _ => pure ()
      return status

def touch : Tool := fun _ args =>
  let style : FlagStyle :=
    { plain := "acfhm", valued := "drt"
      long := [⟨"no-create", 'c', false, false⟩, ⟨"date", 'd', true, false⟩, ⟨"reference", 'r', true, false⟩,
        ⟨"no-dereference", 'h', false, false⟩, ⟨"time", 'T', true, false⟩] }
  withGiven "touch" style args fun g => do
    let now : Int := (← Act.world).clock
    let time ← match g.value? 'd', g.value? 't', g.value? 'r' with
      | some s, _, _ => pure (match momentOf? s (startOfTime + now / 1000000) with
        | some n => Except.ok ((n - startOfTime) * 1000000)
        | none => .error ("invalid date format " ++ quotedName s))
      | none, some s, _ =>
        let digits := s.toList.filter isDigit
        let number (i k : Nat) : Nat := (numberIn? 10 ((digits.drop i).take k)).getD 0
        if (s.toList.takeWhile isDigit).length = 12 then
          let day := Moment.dayNumber (number 0 4) (number 4 2) (number 6 2)
          let seconds := number 8 2 * 3600 + number 10 2 * 60 + number 12 2
          pure (.ok ((day * 86400 + (seconds : Int) - startOfTime) * 1000000))
        else pure (.error ("invalid date format " ++ quotedName s))
      | none, none, some path =>
        match ← walkTo true path with
        | .ok (.present l _) => pure (.ok (← Act.timeOf l))
        | _ => pure (.error ("failed to get attributes of " ++ quotedName path ++ ": No such file or directory"))
      | none, none, none => pure (.ok now)
    match time with
    | .error message => report "touch" message
    | .ok time =>
      if g.operands.isEmpty then misuse "touch" "missing file operand"
      else forAll g.operands fun path => do
        let refuse (reason : String) : Act Nat := report "touch" ("cannot touch " ++ quotedName path ++ ": " ++ reason)
        if path = "-" then return 0
        else match ← walkTo true path with
        | .ok (.present l _) =>
          Act.setTime l time
          return 0
        | .ok (.absent dir name) =>
          if path.endsWith "/" then (if g.has 'c' then return 0 else refuse "No such file or directory")
          else if g.has 'c' then return 0
          else
            Act.putNode (name :: dir) (.file ByteArray.empty)
            Act.setTime (name :: dir) time
            return 0
        | .error fault => if g.has 'c' && fault = .notFound then return 0 else refuse fault.reason

def ln : Tool := fun _ args =>
  let style : FlagStyle :=
    { plain := "bdfFinLPrsTv", valued := "St"
      long := [⟨"symbolic", 's', false, false⟩, ⟨"force", 'f', false, false⟩, ⟨"no-dereference", 'n', false, false⟩,
        ⟨"verbose", 'v', false, false⟩, ⟨"relative", 'r', false, false⟩, ⟨"no-target-directory", 'T', false, false⟩,
        ⟨"target-directory", 't', true, false⟩] }
  withGiven "ln" style args fun g => do
    let isSoft := g.has 's'
    let one (source target : String) : Act Nat := do
      let kind := if isSoft then "symbolic link" else "hard link"
      let fail (reason : String) : Act Nat := report "ln" ("failed to create " ++ kind ++ " " ++ quotedName target ++
        (if isSoft || reason = "File exists" then "" else " => " ++ quotedName source) ++ ": " ++ reason)
      let content ← if isSoft then pure (Except.ok (Node.link ⟨Octets.toText source⟩)) else
        match ← walkTo false source with
        | .ok (.present _ .directory) => pure (.error (source ++ ": hard link not allowed for directory"))
        | .ok (.present _ n) => pure (.ok n)
        | .ok (.absent _ _) => pure (.error ("failed to access " ++ quotedName source ++ ": No such file or directory"))
        | .error fault => pure (.error ("failed to access " ++ quotedName source ++ ": " ++ fault.reason))
      match content with
      | .error message => report "ln" message
      | .ok node =>
        let put (l : Location) : Act Nat := do
          Act.putNode l node
          if g.has 'v' then Act.put 1 (quotedName target ++ (if isSoft then " -> " else " => ") ++ quotedName source ++ "\n")
          return 0
        match ← walkTo false target with
        | .ok (.absent dir name) => put (name :: dir)
        | .error fault => fail fault.reason
        | .ok (.present l n) =>
          if !g.has 'f' then fail "File exists"
          else if n = .directory then report "ln" (target ++ ": cannot overwrite directory")
          else
            match ← walkTo false source with
            | .ok (.present m _) =>
              if m = l then report "ln" (quotedName source ++ " and " ++ quotedName target ++ " are the same file") else put l
            | _ => put l
    match g.operands, g.value? 't' with
    | [], _ => misuse "ln" "missing file operand"
    | sources, some dir => forAll sources fun s => one s (inside dir (lastPart s))
    | [source], none =>
      if g.has 'T' then misuse "ln" ("missing destination file operand after " ++ quotedName source)
      else one source ("./" ++ lastPart source)
    | operands, none =>
      let target := operands.getLast?.getD ""
      let sources := operands.dropLast
      let isDir ← do
        if g.has 'T' then pure false
        else if g.has 'n' then
          match ← walkTo false target with
          | .ok (.present _ .directory) => pure true
          | _ => pure false
        else isDirectoryPath target
      if isDir then forAll sources fun s => one s (inside target (lastPart s))
      else if sources.length > 1 then
        if g.has 'T' then misuse "ln" ("extra operand " ++ quotedName (operands.getD 2 ""))
        else
          let reason := match ← walkTo true target with
            | .ok (.present _ _) => "Not a directory"
            | _ => "No such file or directory"
          report "ln" ("target " ++ quotedName target ++ ": " ++ reason)
      else one (sources.headD "") target

/-! ## Removing -/

/-- Removes what stands at a path, with all that is below it; `shown` tells what is gone. -/
def removeTree (shown : String → Bool → Act Unit) : Nat → String → Location → Act Unit
  | 0, _, _ => return ()
  | n + 1, path, l => do
    match (← Act.world).files.node? l with
    | some .directory =>
      for name in ← namesBelow l do
        removeTree shown n (inside path name) (name :: l)
      Act.dropNode l
      shown path true
    | _ =>
      Act.dropNode l
      shown path false

def rm : Tool := fun _ args =>
  let style : FlagStyle :=
    { plain := "dfiIrRv"
      long := [⟨"force", 'f', false, false⟩, ⟨"recursive", 'r', false, false⟩, ⟨"dir", 'd', false, false⟩,
        ⟨"verbose", 'v', false, false⟩, ⟨"preserve-root", 'p', false, true⟩, ⟨"no-preserve-root", 'P', false, false⟩,
        ⟨"interactive", 'i', false, true⟩] }
  withGiven "rm" style args fun g => do
    if g.operands.isEmpty then
      if g.has 'f' then return 0 else misuse "rm" "missing operand"
    else forAll g.operands fun path => do
      let refuse (reason : String) : Act Nat := report "rm" ("cannot remove " ++ quotedName path ++ ": " ++ reason)
      let shown (p : String) (isDir : Bool) : Act Unit :=
        if g.has 'v' then Act.put 1 ((if isDir then "removed directory " else "removed ") ++ quotedName p ++ "\n") else pure ()
      let recursive := g.has 'r' || g.has 'R'
      let last := lastPart path
      if recursive && (last = "." || last = "..") then
        report "rm" ("refusing to remove '.' or '..' directory: skipping " ++ quotedName path)
      else if recursive && last = "/" then
        Act.warn "rm: it is dangerous to operate recursively on '/'"
        report "rm" "use --no-preserve-root to override this failsafe"
      else match ← walkTo false path with
      | .error .notFound | .ok (.absent _ _) =>
        if g.has 'f' then return 0 else refuse "No such file or directory"
      | .error .notDirectory => if g.has 'f' then return 0 else refuse "Not a directory"
      | .error fault => refuse fault.reason
      | .ok (.present l .directory) =>
        if recursive then
          removeTree shown 1000 (if path.length > 1 && path.endsWith "/" then path else path) l
          return 0
        else if g.has 'd' then
          if (← namesBelow l).isEmpty then
            Act.dropNode l
            shown path true
            return 0
          else refuse "Directory not empty"
        else refuse "Is a directory"
      | .ok (.present l _) =>
        Act.dropNode l
        shown path false
        return 0

def rmdir : Tool := fun _ args =>
  let style : FlagStyle :=
    { plain := "pv"
      long := [⟨"parents", 'p', false, false⟩, ⟨"verbose", 'v', false, false⟩, ⟨"ignore-fail-on-non-empty", 'i', false, false⟩] }
  withGiven "rmdir" style args fun g => do
    if g.operands.isEmpty then misuse "rmdir" "missing operand"
    else
      let one (isParent : Bool) (path : String) : Act Nat := do
        if g.has 'v' then Act.put 1 ("rmdir: removing directory, " ++ quotedName path ++ "\n")
        let refuse (reason : String) : Act Nat :=
          report "rmdir" ((if isParent then "failed to remove directory " else "failed to remove ") ++ quotedName path ++ ": " ++ reason)
        match ← walkTo false path with
        | .error fault => refuse fault.reason
        | .ok (.absent _ _) => refuse "No such file or directory"
        | .ok (.present l .directory) =>
          if lastPart path = "." then refuse "Invalid argument"
          else if lastPart path = ".." then refuse "Directory not empty"
          else if !(← namesBelow l).isEmpty then
            if g.has 'i' then return 0 else refuse "Directory not empty"
          else
            Act.dropNode l
            return 0
        | .ok (.present _ _) => refuse "Not a directory"
      forAll g.operands fun path => do
        let first ← one false path
        if first ≠ 0 || !g.has 'p' then return first
        else
          let rec upwards : Nat → String → Act Nat
            | 0, _ => return 0
            | n + 1, p => do
              if !(unslashed p).toList.contains '/' then return 0
              else
                let parent := frontPart p
                if parent = "/" || parent = "." then return 0
                else
                  let status ← one true parent
                  if status ≠ 0 then return status else upwards n parent
          upwards 100 path

def unlink : Tool := fun _ args => do
  match args with
  | [] => misuse "unlink" "missing operand"
  | [path] =>
    match ← walkTo false path with
    | .ok (.present _ .directory) => report "unlink" ("cannot unlink " ++ quotedName path ++ ": Is a directory")
    | .ok (.present l _) =>
      Act.dropNode l
      return 0
    | .ok (.absent _ _) => report "unlink" ("cannot unlink " ++ quotedName path ++ ": No such file or directory")
    | .error fault => report "unlink" ("cannot unlink " ++ quotedName path ++ ": " ++ fault.reason)
  | _ => misuse "unlink" ("extra operand " ++ quotedName (args.getD 1 ""))

/-! ## Copying -/

structure CopyStyle where
  recursive : Bool
  keepsLinks : Bool
  keepsManners : Bool
  keepsOld : Bool
  updates : Bool
  verbose : Bool
  asLinks : Bool
  removesFirst : Bool

/-- Copies what stands at a path to another. -/
def copyTree (s : CopyStyle) (top : Location) : Nat → Bool → String → String → Act Nat
  | 0, _, _, _ => return 1
  | n + 1, atTop, source, target => do
    let follow := !s.keepsLinks && (atTop || !s.recursive || true)
    let tell : Act Unit := if s.verbose then Act.put 1 (quotedName source ++ " -> " ++ quotedName target ++ "\n") else pure ()
    match ← walkTo follow source with
    | .error fault => report "cp" ("cannot stat " ++ quotedName source ++ ": " ++ fault.reason)
    | .ok (.absent _ _) => report "cp" ("cannot stat " ++ quotedName source ++ ": No such file or directory")
    | .ok (.present l .directory) =>
      if !s.recursive then report "cp" ("-r not specified; omitting directory " ++ quotedName source)
      else
        match ← walkTo true target with
        | .error fault => report "cp" ("cannot create directory " ++ quotedName target ++ ": " ++ fault.reason)
        | .ok (.present _ (.file _)) | .ok (.present _ (.link _)) =>
          report "cp" ("cannot overwrite non-directory " ++ quotedName target ++ " with directory " ++ quotedName source)
        | .ok spot =>
          let (m, isNew) := match spot with
            | .present m _ => (m, false)
            | .absent dir name => (name :: dir, true)
          if m = l && atTop then
            report "cp" (quotedName source ++ " and " ++ quotedName target ++ " are the same file")
          else if atTop && l.isSuffixOf m then
            if isNew then
              Act.putNode m .directory
            report "cp" ("cannot copy a directory, " ++ quotedName source ++ ", into itself, " ++ quotedName target)
          else
            let names ← namesBelow l
            if isNew then
              Act.putNode m .directory
              tell
            let mut status := 0
            for name in names do
              if (name :: l) ≠ top then
                let one ← copyTree s top n false (inside source name) (inside target name)
                if one ≠ 0 then status := one
            if isNew || s.keepsManners then
              let mode ← Act.modeOf l .directory
              if mode ≠ (← Act.modeOf m .directory) then Act.setMode m mode
            return status
    | .ok (.present l node) =>
      let place ← walkTo false target
      let refuse (reason : String) : Act Nat :=
        report "cp" ("cannot create " ++ (match node with
          | .link _ => "symbolic link "
          | _ => "regular file ") ++ quotedName target ++ ": " ++ reason)
      let finish (m : Location) (isNew : Bool) : Act Nat := do
        tell
        if s.asLinks then Act.putNode m (.link ⟨Octets.toText source⟩)
        else
          Act.putNode m node
          if isNew then
            let mode ← Act.modeOf l node
            let mask := (← Act.process).mask
            let kept := if s.keepsManners then mode else mode - (mode &&& mask)
            if kept ≠ (← Act.modeOf m node) then Act.setMode m kept
          if s.keepsManners then copyManners l m node
        return 0
      match place with
      | .error fault => refuse fault.reason
      | .ok (.absent dir name) =>
        if target.endsWith "/" then refuse "Not a directory" else finish (name :: dir) true
      | .ok (.present _ .directory) =>
        report "cp" ("cannot overwrite directory " ++ quotedName target ++ " with non-directory " ++ quotedName source)
      | .ok (.present m there) =>
        if s.keepsOld then return 0
        else if m = l then
          report "cp" (quotedName source ++ " and " ++ quotedName target ++ " are the same file")
        else if s.updates && (← Act.timeOf l) ≤ (← Act.timeOf m) then return 0
        else match there, node, s.removesFirst with
          | .link _, .file _, false =>
            match ← walkTo true target with
            | .ok (.present k (.file _)) =>
              if k = l then report "cp" (quotedName source ++ " and " ++ quotedName target ++ " are the same file")
              else finish k false
            | .ok (.absent _ _) => report "cp" ("not writing through dangling symlink " ++ quotedName target)
            | _ => finish m false
          | _, _, _ => finish m false

/-- The sources and targets that the operands of a copying tool name. -/
def copyPlan (name : String) (g : GivenFlags) (run : String → String → Act Nat) : Act Nat := do
  let intoDirectory (dir : String) (sources : List String) : Act Nat :=
    forAll sources fun s => run s (inside dir (lastPart s))
  match g.operands, g.value? 't' with
  | [], _ => misuse name "missing file operand"
  | sources, some dir =>
    if ← isDirectoryPath dir then intoDirectory dir sources
    else report name ("target directory " ++ quotedName dir ++ ": " ++ (match ← walkTo true dir with
      | .ok (.present _ _) => "Not a directory"
      | _ => "No such file or directory"))
  | [source], none => misuse name ("missing destination file operand after " ++ quotedName source)
  | operands, none =>
    let target := operands.getLast?.getD ""
    let sources := operands.dropLast
    if g.has 'T' then
      if sources.length > 1 then misuse name ("extra operand " ++ quotedName (operands.getD 2 ""))
      else run (sources.headD "") target
    else if ← isDirectoryPath target then intoDirectory target sources
    else if sources.length > 1 then
      let reason := match ← walkTo true target with
        | .ok (.present _ _) => "Not a directory"
        | .ok (.absent _ _) => "No such file or directory"
        | .error fault => fault.reason
      report name ("target " ++ quotedName target ++ ": " ++ reason)
    else run (sources.headD "") target

def cp : Tool := fun _ args =>
  let style : FlagStyle :=
    { plain := "abdfHilLnPpRrsTuvx", valued := "St"
      long := [⟨"archive", 'a', false, false⟩, ⟨"force", 'f', false, false⟩, ⟨"interactive", 'i', false, false⟩,
        ⟨"link", 'l', false, false⟩, ⟨"no-clobber", 'n', false, false⟩, ⟨"preserve", 'p', false, true⟩,
        ⟨"recursive", 'r', false, false⟩, ⟨"symbolic-link", 's', false, false⟩, ⟨"target-directory", 't', true, false⟩,
        ⟨"no-target-directory", 'T', false, false⟩, ⟨"update", 'u', false, true⟩, ⟨"verbose", 'v', false, false⟩,
        ⟨"parents", 'X', false, false⟩, ⟨"dereference", 'L', false, false⟩, ⟨"no-dereference", 'P', false, false⟩,
        ⟨"remove-destination", 'D', false, false⟩] }
  withGiven "cp" style args fun g => do
    let recursive := g.has 'r' || g.has 'R' || g.has 'a'
    let s : CopyStyle :=
      { recursive := recursive
        keepsLinks := g.has 'd' || g.has 'P' || g.has 'a' || (recursive && !g.has 'L' && !g.has 'H')
        keepsManners := g.has 'p' || g.has 'a'
        keepsOld := g.has 'n'
        updates := g.has 'u'
        verbose := g.has 'v'
        asLinks := g.has 's'
        removesFirst := g.has 'D' || (g.has 'd' || g.has 'P' || g.has 'a') }
    copyPlan "cp" g fun source target => do
      let target := if g.has 'X' then inside (frontPart target) source else target
      if g.has 'X' then
        let _ ← makeAll false (frontPart target)
      let top : Location := match ← walkTo false target with
        | .ok (.absent dir name) => name :: dir
        | _ => []
      copyTree s top 1000 true source target

/-! ## Moving -/

/-- Moves what stands at a place to another. -/
def moveTree (source target : Location) : Act Unit := do
  let w ← Act.world
  let entries := (w.files.node? source).toList.map (fun n => (source, n)) ++ w.files.below source
  let moved (l : Location) : Location := l.take (l.length - source.length) ++ target
  let modes := w.modes.filter fun e => source.isSuffixOf e.1
  let times := w.times.filter fun e => source.isSuffixOf e.1
  Act.dropNode source
  Act.dropNode target
  Act.updateWorld fun w =>
    { w with
      files := entries.foldl (fun fs e => fs.put (moved e.1) e.2) w.files
      modes := modes.map (fun e => (moved e.1, e.2)) ++ w.modes
      times := times.map (fun e => (moved e.1, e.2)) ++ w.times
      opened := w.opened.map fun f => match f.target with
        | .file l => if source.isSuffixOf l then { f with target := .file (moved l) } else f
        | _ => f }

def mv : Tool := fun _ args =>
  let style : FlagStyle :=
    { plain := "bfinTuvZ", valued := "St"
      long := [⟨"force", 'f', false, false⟩, ⟨"interactive", 'i', false, false⟩, ⟨"no-clobber", 'n', false, false⟩,
        ⟨"target-directory", 't', true, false⟩, ⟨"no-target-directory", 'T', false, false⟩, ⟨"update", 'u', false, true⟩,
        ⟨"verbose", 'v', false, false⟩] }
  withGiven "mv" style args fun g => do
    copyPlan "mv" g fun source target => do
      let cannot (reason : String) : Act Nat :=
        report "mv" ("cannot move " ++ quotedName source ++ " to " ++ quotedName target ++ ": " ++ reason)
      let go (l m : Location) : Act Nat := do
        moveTree l m
        if g.has 'v' then Act.put 1 ("renamed " ++ quotedName source ++ " -> " ++ quotedName target ++ "\n")
        return 0
      match ← walkTo false (unslashed source) with
      | .error fault => report "mv" ("cannot stat " ++ quotedName source ++ ": " ++ fault.reason)
      | .ok (.absent _ _) => report "mv" ("cannot stat " ++ quotedName source ++ ": No such file or directory")
      | .ok (.present l node) =>
        if source.endsWith "/" && node ≠ .directory then
          report "mv" ("cannot stat " ++ quotedName source ++ ": Not a directory")
        else match ← walkTo false (unslashed target) with
        | .error fault => cannot fault.reason
        | .ok (.absent dir name) =>
          if target.endsWith "/" && node ≠ .directory then cannot "Not a directory"
          else if node = .directory && l.isSuffixOf (name :: dir) then
            report "mv" ("cannot move " ++ quotedName source ++ " to a subdirectory of itself, " ++ quotedName target)
          else go l (name :: dir)
        | .ok (.present m there) =>
          if g.has 'n' then return 0
          else if m = l then
            report "mv" (quotedName source ++ " and " ++ quotedName target ++ " are the same file")
          else if g.has 'u' && (← Act.timeOf l) ≤ (← Act.timeOf m) then return 0
          else if there = .directory && node ≠ .directory then
            report "mv" ("cannot overwrite directory " ++ quotedName target ++ " with non-directory")
          else if there ≠ .directory && node = .directory then
            report "mv" ("cannot overwrite non-directory " ++ quotedName target ++ " with directory " ++ quotedName source)
          else if there = .directory && l.isSuffixOf m then
            report "mv" ("cannot move " ++ quotedName source ++ " to a subdirectory of itself, " ++ quotedName target)
          else if there = .directory && !(← namesBelow m).isEmpty then cannot "Directory not empty"
          else go l m

/-- Copies files and sets their permissions, or makes directories. -/
def install : Tool := fun _ args =>
  let style : FlagStyle :=
    { plain := "bcCdDpsTv", valued := "gmoSt"
      long := [⟨"mode", 'm', true, false⟩, ⟨"directory", 'd', false, false⟩, ⟨"verbose", 'v', false, false⟩,
        ⟨"target-directory", 't', true, false⟩] }
  withGiven "install" style args fun g => do
    let mode := ((g.value? 'm').bind fun s => changedMode? false 0 0 s).getD 493
    if g.has 'd' then
      if g.operands.isEmpty then misuse "install" "missing file operand"
      else forAll g.operands fun path => makeAll false path
    else
      copyPlan "install" g fun source target => do
        if g.has 'D' then
          let _ ← makeAll false (frontPart target)
        match ← walkTo true source with
        | .ok (.present _ (.file content)) =>
          match ← walkTo false target with
          | .error fault => report "install" ("cannot create regular file " ++ quotedName target ++ ": " ++ fault.reason)
          | .ok spot =>
            let m := match spot with
              | .present m _ => m
              | .absent dir name => name :: dir
            Act.putNode m (.file content)
            Act.setMode m mode
            if g.has 'v' then Act.put 1 (quotedName source ++ " -> " ++ quotedName target ++ "\n")
            return 0
        | .ok (.present _ _) => report "install" ("omitting directory " ++ quotedName source)
        | .ok (.absent _ _) => report "install" ("cannot stat " ++ quotedName source ++ ": No such file or directory")
        | .error fault => report "install" ("cannot stat " ++ quotedName source ++ ": " ++ fault.reason)

/-! ## Permissions -/

def octalMode (mode : Nat) : String :=
  Floating.zeroFilled 4 (digitsIn 8 mode)

def modeLetters (mode : Nat) : String :=
  let group (bits : Nat) (special : Bool) (letter : Char) : String :=
    (if bits &&& 4 ≠ 0 then "r" else "-") ++ (if bits &&& 2 ≠ 0 then "w" else "-") ++
      (if special then String.singleton (if bits &&& 1 ≠ 0 then letter else upperOf letter)
        else if bits &&& 1 ≠ 0 then "x" else "-")
  group (mode / 64 % 8) (mode &&& 2048 ≠ 0) 's' ++ group (mode / 8 % 8) (mode &&& 1024 ≠ 0) 's' ++
    group (mode % 8) (mode &&& 512 ≠ 0) 't'

/-- Sets the permissions of what stands at a path. -/
def changeMode (g : GivenFlags) (changes : List ModeChange) (byFlag : Bool) : Nat → String → Act Nat
  | 0, _ => return 1
  | n + 1, path => do
    match ← walkTo true path with
    | .ok (.present l node) =>
      let old ← Act.modeOf l node
      let mask := (← Act.process).mask
      let isDirectory := node = .directory
      let new := ModeChange.applyAll isDirectory mask old changes
      if new ≠ old then Act.setMode l new
      if g.has 'v' || (g.has 'c' && new ≠ old) then
        Act.put 1 ("mode of " ++ quotedName path ++ (if new ≠ old then " changed from " ++ octalMode old ++ " (" ++
          modeLetters old ++ ") to " ++ octalMode new ++ " (" ++ modeLetters new ++ ")\n"
          else " retained as " ++ octalMode old ++ " (" ++ modeLetters old ++ ")\n"))
      let naive := ModeChange.applyAll isDirectory 0 old changes
      let status ← if byFlag && ModeChange.without new naive ≠ 0 then
          let kind := if isDirectory then "d" else "-"
          report "chmod" (path ++ ": new permissions are " ++ kind ++ modeLetters new ++ ", not " ++ kind ++
            modeLetters naive)
        else pure 0
      if g.has 'R' && isDirectory then
        let below ← namesBelow l
        let rest ← forAll below fun name => do
          match ← walkTo false (inside path name) with
          | .ok (.present _ (.link _)) => return 0
          | _ => changeMode g changes byFlag n (inside path name)
        return max status rest
      else return status
    | .ok (.absent _ _) =>
      if g.has 'f' then return 1
      else match ← walkTo false path with
        | .ok (.present _ _) => report "chmod" ("cannot operate on dangling symlink " ++ quotedName path)
        | _ => report "chmod" ("cannot access " ++ quotedName path ++ ": No such file or directory")
    | .error fault => if g.has 'f' then return 1 else report "chmod" ("cannot access " ++ quotedName path ++ ": " ++ fault.reason)

def chmod : Tool := fun _ args =>
  let style : FlagStyle :=
    { plain := "cfvR"
      long := [⟨"changes", 'c', false, false⟩, ⟨"silent", 'f', false, false⟩, ⟨"quiet", 'f', false, false⟩,
        ⟨"verbose", 'v', false, false⟩, ⟨"recursive", 'R', false, false⟩, ⟨"reference", 'r', true, false⟩] }
  let isMode (a : String) : Bool := match a.toList with
    | '-' :: c :: _ => "rwxXstugoa,+=01234567".toList.contains c
    | _ => false
  let before := args.takeWhile (· != "--")
  let modes := before.filter isMode
  let others := before.filter (fun a => !isMode a) ++ args.drop before.length
  withGiven "chmod" style others fun g => do
    let change (mode : String) (paths : List String) (byFlag : Bool) : Act Nat := do
      match ModeChange.read? mode with
      | none => misuse "chmod" ("invalid mode: " ++ quotedName mode)
      | some changes => forAll paths (changeMode g changes byFlag 1000)
    match g.value? 'r', modes, g.operands with
    | some _, _ :: _, _ => misuse "chmod" "cannot combine mode and --reference options"
    | some _, [], [] => misuse "chmod" "missing operand"
    | some path, [], paths =>
      match ← walkTo true path with
      | .ok (.present l node) => change (digitsIn 8 (← Act.modeOf l node)) paths false
      | .ok (.absent _ _) =>
        report "chmod" ("failed to get attributes of " ++ quotedName path ++ ": No such file or directory")
      | .error fault => report "chmod" ("failed to get attributes of " ++ quotedName path ++ ": " ++ fault.reason)
    | none, [], [] => misuse "chmod" "missing operand"
    | none, [], [mode] => misuse "chmod" ("missing operand after " ++ quotedName mode)
    | none, [], mode :: paths => change mode paths false
    | none, _ :: _, [] => misuse "chmod" ("missing operand after " ++ quotedName (args.getLastD ""))
    | none, modes, paths => change (",".intercalate modes) paths true

/-! ## Sizes and temporary files -/

/-- A file of a size: cut off, or filled with zeros. -/
def resized (content : ByteArray) (size : Nat) : ByteArray :=
  if size ≤ content.size then content.extract 0 size
  else content ++ ⟨Array.replicate (size - content.size) 0⟩

def truncate : Tool := fun _ args =>
  let style : FlagStyle :=
    { plain := "co", valued := "rs"
      long := [⟨"size", 's', true, false⟩, ⟨"no-create", 'c', false, false⟩, ⟨"reference", 'r', true, false⟩] }
  withGiven "truncate" style args fun g => do
    if !g.has 's' && !g.has 'r' then misuse "truncate" "you must specify either '--size' or '--reference'"
    else if g.operands.isEmpty then misuse "truncate" "missing file operand"
    else
      let asked := (g.value? 's').getD "0"
      let (sign, digits) := match asked.toList with
        | c :: cs => if "+-<>/%".toList.contains c then (some c, String.ofList cs) else (none, asked)
        | [] => (none, "")
      match scaled? digits with
      | none => report "truncate" ("Invalid number: " ++ quotedName asked)
      | some n => forAll g.operands fun path => do
        match ← walkTo true path with
        | .ok (.present _ .directory) => report "truncate" ("cannot open " ++ quotedName path ++ " for writing: Is a directory")
        | .error fault => report "truncate" ("cannot open " ++ quotedName path ++ " for writing: " ++ fault.reason)
        | .ok spot =>
          let (l, content) := match spot with
            | .present l (.file content) => (l, content)
            | .present l _ => (l, ByteArray.empty)
            | .absent dir name => (name :: dir, ByteArray.empty)
          if (spot matches .absent _ _) && g.has 'c' then return 0
          else
            let old := content.size
            let size := match sign with
              | some '+' => old + n
              | some '-' => old - n
              | some '<' => min old n
              | some '>' => max old n
              | some '/' => old / max 1 n * n
              | some '%' => (old + n - 1) / max 1 n * n
              | _ => n
            Act.putNode l (.file (resized content size))
            return 0

/-- The letters of a name that is made up, from a number. -/
def madeUpName (seed : Nat) : Nat → List Char
  | 0 => []
  | n + 1 =>
    let next := (seed * 6364136223846793005 + 1442695040888963407) % Nat.pow 2 64
    let letters := "abcdefghijklmnopqrstuvwxyzABCDEFGHIJKLMNOPQRSTUVWXYZ0123456789".toList
    letters.getD (next / 4294967296 % 62) 'a' :: madeUpName next n

/-- Makes a file or directory with a name of its own. -/
def mktemp : Tool := fun _ args =>
  let style : FlagStyle :=
    { plain := "dqtu", valued := "p"
      long := [⟨"directory", 'd', false, false⟩, ⟨"dry-run", 'u', false, false⟩, ⟨"quiet", 'q', false, false⟩,
        ⟨"tmpdir", 'p', true, false⟩, ⟨"suffix", 's', true, false⟩] }
  let args := args.map fun a => if a = "--tmpdir" then "--tmpdir=" else a
  withGiven "mktemp" style args fun g => do
    let template := g.operands.headD "tmp.XXXXXXXXXX"
    let room := (template.toList.reverse.dropWhile (· != 'X')).takeWhile (· == 'X')
    if room.length < 3 then report "mktemp" ("too few X's in template " ++ quotedName template)
    else
      let behind := template.toList.reverse.takeWhile (· != 'X')
      let front := template.toList.take (template.length - room.length - behind.length)
      let seed := (← Act.process).number * 7919 + (← Act.world).clock + (← Act.world).nextNumber
      let _ ← Act.freshNumber
      let name := String.ofList (front ++ madeUpName seed room.length ++ behind.reverse) ++ (g.value? 's').getD ""
      let base ← Act.textOf "TMPDIR"
      let path := match g.value? 'p' with
        | some dir => inside (if dir.isEmpty then (base.getD "/tmp") else dir) name
        | none => if g.operands.isEmpty || g.has 't' then inside (base.getD "/tmp") name else name
      match ← walkTo false path with
      | .ok (.absent dir last) =>
        if !g.has 'u' then
          Act.putNode (last :: dir) (if g.has 'd' then .directory else .file ByteArray.empty)
          Act.setMode (last :: dir) (if g.has 'd' then 448 else 384)
        say "mktemp" (path ++ "\n")
      | .ok _ => report "mktemp" ("failed to create file via template " ++ quotedName template ++ ": File exists")
      | .error fault => report "mktemp" ("failed to create " ++ (if g.has 'd' then "directory" else "file") ++ " via template " ++
          quotedName (match g.value? 'p' with
            | some dir => inside dir template
            | none => template) ++ ": " ++ fault.reason)

def dd : Tool := fun _ args => do
  let value (name : String) : Option String :=
    ((args.filter fun a => a.startsWith (name ++ "=")).getLast?).map (dropText (name.length + 1))
  match args.find? fun a => !(["if", "of", "bs", "ibs", "obs", "count", "skip", "seek", "conv", "status", "iflag", "oflag", "cbs"].any
      fun n => a.startsWith (n ++ "=")) with
  | some a =>
    misuse "dd" ("unrecognized operand " ++ quotedName a)
  | none =>
    let size := ((value "bs").or (value "ibs")).bind scaled? |>.getD 512
    let outSize := ((value "bs").or (value "obs")).bind scaled? |>.getD 512
    let source := value "if"
    let input ← match source with
      | some path => Act.openToRead path
      | none => do
        match (← Act.openedAt 0) with
        | some (i, _) => pure (.ok i)
        | none => pure (.error .notOpen)
    match input with
    | .error fault => report "dd" ("failed to open " ++ quotedName (source.getD "") ++ ": " ++ fault.reason)
    | .ok i =>
      match (← Act.world).opened[i]? with
      | none => return 1
      | some f =>
        match ← Act.restOf f with
        | .error fault => report "dd" ("error reading " ++ quotedName (source.getD "standard input") ++ ": " ++ fault.reason)
        | .ok text =>
          let skipped := ((value "skip").bind scaled?).getD 0 * size
          let rest := dropText skipped text
          let taken := match (value "count").bind scaled? with
            | some n => takeText (n * size) rest
            | none => rest
          Act.skip i f (skipped + taken.length)
          let conversions := splitAll ',' ((value "conv").getD "")
          let turned := if conversions.contains "ucase" then uppered taken
            else if conversions.contains "lcase" then lowered taken else taken
          let turned := if conversions.contains "swab" then
              String.ofList ((chunks 2 (turned.length + 1) turned.toList).flatMap List.reverse) else turned
          let seek := ((value "seek").bind scaled?).getD 0 * outSize
          match value "of" with
          | none => Act.put 1 turned
          | some path =>
            match ← walkTo true path with
            | .ok (.present _ .directory) => return ← report "dd" ("failed to open " ++ quotedName path ++ ": Is a directory")
            | .error fault => return ← report "dd" ("failed to open " ++ quotedName path ++ ": " ++ fault.reason)
            | .ok spot =>
              if (Act.device? path).isNone && (Act.deviceStream? path).isNone then
                let (l, content) := match spot with
                  | .present l (.file content) => (l, content)
                  | .present l _ => (l, ByteArray.empty)
                  | .absent dir name => (name :: dir, ByteArray.empty)
                let base := if conversions.contains "notrunc" then content
                  else resized content (min seek content.size)
                Act.putNode l (.file (overwrite base (Octets.toBytes turned) seek))
          let records (n size : Nat) : String := Nat.repr (n / size) ++ "+" ++ (if n % size = 0 then "0" else "1")
          if value "status" != some "none" then
            Act.warn (records taken.length size ++ " records in")
            Act.warn (records turned.length outSize ++ " records out")
            if value "status" != some "noxfer" then
              Act.warn (Nat.repr turned.length ++ (if turned.length = 1 then " byte" else " bytes") ++ " copied, 0.0001 s, 1.0 MB/s")
          return 0

end SpeechConfig.Shell.Tool
