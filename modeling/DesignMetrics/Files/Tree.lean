import DesignMetrics.Files.Error
import DesignMetrics.Files.Path
import DesignMetrics.Sorting
import DesignMetrics.Text.Lines

/-!
# File trees

The files of a directory as a value. A walk follows a path through directories and links, and every
operation says where it ends or why it does not.
-/

namespace DesignMetrics.Files

/-- A device, by what becomes of that which is written to it. Read, it is taken to be empty. That is
true of `/dev/null` alone: `/dev/zero`, `/dev/random`, `/dev/urandom` and `/dev/full` never come to
an end, and trees from which they are read are outside of what is said here. -/
inductive Device where
  /-- It takes everything. -/
  | sink
  /-- It takes nothing. -/
  | full
  /-- It cannot be opened. -/
  | missing
deriving DecidableEq, Repr

/-- What a name in a directory stands for. -/
inductive Node where
  | file (bytes : List UInt8)
  | directory
  | link (target : String)
  | device (kind : Device)
deriving DecidableEq

/-- A place in a tree: the names from the top down, none of them a link or `..` except the last. -/
abbrev Location := List String

/-- What stands where, apart from the top, which is always a directory. -/
structure Tree where
  entries : List (Location × Node)

namespace Tree

/-- The current directory. Where it lies is not known, so the names that lead there are such as no
path can have. -/
def home : Location := ["", ""]

/-- The directories that are at the top of every tree. -/
def standardNames : List String :=
  ["bin", "boot", "dev", "etc", "home", "lib", "lib64", "media", "mnt", "opt", "proc", "root",
    "run", "sbin", "srv", "sys", "tmp", "usr", "var"]

/-- What is below them, as far as it differs from a free name. -/
def standardEntries : List (Location × Node) :=
  [(["dev", "null"], .device .sink), (["dev", "zero"], .device .sink),
    (["dev", "random"], .device .sink), (["dev", "urandom"], .device .sink),
    (["dev", "full"], .device .full), (["dev", "tty"], .device .missing),
    (["etc", "passwd"], .file []), (["proc", "self"], .directory), (["proc", "1"], .directory),
    (["proc", "sys"], .directory), (["sys", "class"], .directory),
    (["sys", "devices"], .directory), (["sys", "fs"], .directory), (["sys", "kernel"], .directory)]

/-- The tree with nothing in the current directory. -/
def empty : Tree where
  entries :=
    [([""], .directory), (home, .directory)] ++
      standardNames.map (fun name => ([name], .directory)) ++ standardEntries

/-- Why nothing can be made at a location, neither a directory nor anything else: the system
itself makes the names below some directories. -/
def refusal? (l : Location) (isDirectory : Bool) : Option Obstacle :=
  match l with
  | "proc" :: _ :: _ => some .notFound
  | "sys" :: _ :: _ => some (if isDirectory then .notPermitted else .accessDenied)
  | _ => none

/-- What stands at a location. -/
def node? (t : Tree) (l : Location) : Option Node :=
  if l = [] then some .directory else t.entries.lookup l

/-- Writes at a location whose directory exists. -/
def put (t : Tree) (l : Location) (n : Node) : Tree :=
  if (t.entries.lookup l).isSome then
    ⟨t.entries.map fun e => if e.1 = l then (l, n) else e⟩
  else ⟨t.entries ++ [(l, n)]⟩

/-! ## Walking -/

/-- The end of a walk: something, or a name that is free in an existing directory. -/
inductive Place where
  | taken (l : Location) (n : Node)
  | free (l : Location)

/-- What a walk is for. -/
inductive Purpose where
  /-- To see what a path leads to. -/
  | seeing
  /-- To see the last name of a path, which may be a link. -/
  | naming
  /-- To write a file where a path leads. -/
  | writing
deriving DecidableEq, Repr

/-- The names of a link target. A slash at its end asks for a directory and is kept as an empty
name. -/
def targetNames (target : String) : List String :=
  let names := (Text.splitOn '/' target.toList).map String.ofList
  let slash := names.getLast? = some "" && names.any (· != "")
  names.filter (· != "") ++ if slash then [""] else []

/-- The longest name that a directory can hold, in bytes. -/
def longestName : Nat := 255

/-- The longest path that can be walked, in bytes. -/
def longestPath : Nat := 4095

/-- Walks from the directory `here` along names. Where a link is to be followed, `follow` goes on
from its directory, or from the top. -/
def stepAlong (t : Tree) (purpose : Purpose)
    (follow : Location → List String → Except Obstacle Place) (here : Location) :
    List String → Except Obstacle Place
  | [] => .ok (.taken here .directory)
  | name :: rest =>
    if name = "." || name = "" then stepAlong t purpose follow here rest
    else if name = ".." then stepAlong t purpose follow here.dropLast rest
    else if purpose = .writing && rest = [""] then .error .isDirectory
    else if longestName < name.utf8ByteSize then .error .nameTooLong
    else
      let next := here ++ [name]
      match t.node? next with
      | none => if rest.isEmpty then .ok (.free next) else .error .notFound
      | some .directory => stepAlong t purpose follow next rest
      | some (.link target) =>
        if rest.isEmpty && purpose = .naming then .ok (.taken next (.link target))
        else
          follow (if target.toList.head? = some '/' then [] else here)
            (targetNames target ++ rest)
      | some n => if rest.isEmpty then .ok (.taken next n) else .error .notDirectory

/-- A walk that follows fewer links than `links`. -/
def walkWithin (t : Tree) (purpose : Purpose) :
    (links : Nat) → Location → List String → Except Obstacle Place
  | 0 => fun _ _ => .error .tooManyLinks
  | links + 1 => stepAlong t purpose (walkWithin t purpose links)

/-- Walks a path from the top or from the current directory. Forty links may be followed on the
way. -/
def walk (t : Tree) (purpose : Purpose) (p : Path) : Except FileError Place :=
  if p.names.any (·.toList.contains '\x00') then .error .nullInPath
  else if longestPath < p.toString.utf8ByteSize then .error (.blocked .nameTooLong p.toString)
  else
    (walkWithin t purpose 41 (if p.isAbsolute then [] else home) p.names).mapError
      (.blocked · p.toString)

/-! ## Reading -/

/-- What a path leads to. -/
def find (t : Tree) (p : Path) : Except FileError Node :=
  match t.walk .seeing p with
  | .ok (.taken _ n) => .ok n
  | .ok (.free _) => .error (.blocked .notFound p.toString)
  | .error e => .error e

/-- What a path leads to, if that can be told. Only a name that is too long leaves the question
open. -/
def find? (t : Tree) (p : Path) : Except FileError (Option Node) :=
  match t.find p with
  | .ok n => .ok (some n)
  | .error (.blocked .nameTooLong path) => .error (.blocked .nameTooLong path)
  | .error _ => .ok none

/-- Whether a path leads to a directory. -/
def isDirectory (t : Tree) (p : Path) : Except FileError Bool :=
  (t.find? p).map (· = some .directory)

/-- Whether a path leads to anything. -/
def contains (t : Tree) (p : Path) : Except FileError Bool :=
  (t.find? p).map Option.isSome

/-- Whether a path leads to a link, before that is followed. -/
def isLink (t : Tree) (p : Path) : Bool :=
  match t.walk .naming p with
  | .ok (.taken _ (.link _)) => true
  | _ => false

/-- The names in the directory at a location, in the order of their code points. -/
def namesIn (t : Tree) (l : Location) : List String :=
  sortBy (fun a b => decide (a ≤ b)) <| t.entries.filterMap fun e =>
    if e.1.dropLast = l then e.1.getLast? else none

/-- The names of the links in the directory at a location. -/
def linksIn (t : Tree) (l : Location) : List String :=
  (t.namesIn l).filter fun name =>
    match t.node? (l ++ [name]) with
    | some (.link _) => true
    | _ => false

/-- Whether it can be told where each of the links in a directory leads. The path of a link begins
as the directory is written, so a link in the current directory has `./` in front. -/
def inspect (t : Tree) (p : Path) (links : List String) : Except FileError Unit :=
  links.forM fun name =>
    match t.find? (p.append [name]) with
    | .error (.blocked o path) =>
      .error (.blocked o (if p = ⟨"", []⟩ then "./" ++ path else path))
    | .error e => .error e
    | .ok _ => .ok ()

/-- The real directories below a location and the location itself, each by the names that lead
there. Links are not followed. -/
def directoriesBelow (t : Tree) (l : Location) : List (List String) :=
  [] :: t.entries.filterMap fun (l', n) =>
    if n = .directory ∧ l.isPrefixOf l' ∧ l ≠ l' then some (l'.drop l.length) else none

/-- The location and the names of the directory that a path leads to. -/
def list (t : Tree) (p : Path) : Except FileError (Location × List String) :=
  match t.walk .seeing p with
  | .ok (.taken l .directory) => .ok (l, t.namesIn l)
  | .ok (.taken _ _) => .error (.blocked .notDirectory p.toString)
  | .ok (.free _) => .error (.blocked .notFound p.toString)
  | .error e => .error e

/-- The bytes of a file. A device that can be opened has none, as if each of them were
`/dev/null`. -/
def readBytes (t : Tree) (p : Path) : Except FileError (List UInt8) :=
  match t.find p with
  | .ok (.file bytes) => .ok bytes
  | .ok (.device .missing) => .error (.blocked .noDevice p.toString)
  | .ok (.device _) => .ok []
  | .ok _ => .error (.blocked .isDirectory p.toString)
  | .error e => .error e

/-- The text of a file, with one line feed for every line end. -/
def readText (t : Tree) (p : Path) : Except ReadError (List Char) :=
  match t.readBytes p with
  | .error e => .error (.file e)
  | .ok bytes =>
    match Text.Utf8.decode bytes with
    | .error e => .error (.encoding e)
    | .ok cs => .ok (Text.unifyNewlines cs)

/-! ## Writing -/

/-- Writes a file, where a link at the end of the path leads to. -/
def writeBytes (t : Tree) (p : Path) (bytes : List UInt8) : Except FileError Tree :=
  match t.walk .writing p with
  | .ok (.taken _ .directory) => .error (.blocked .isDirectory p.toString)
  | .ok (.taken _ (.device .sink)) => .ok t
  | .ok (.taken _ (.device .full)) => .error .noSpace
  | .ok (.taken _ (.device .missing)) => .error (.blocked .noDevice p.toString)
  | .ok (.taken l _) => .ok (t.put l (.file bytes))
  | .ok (.free l) =>
    match refusal? l false with
    | some o => .error (.blocked o p.toString)
    | none => .ok (t.put l (.file bytes))
  | .error e => .error e

/-- Writes a text as UTF-8. -/
def writeText (t : Tree) (p : Path) (text : String) : Except FileError Tree :=
  t.writeBytes p text.toUTF8.toList

/-- Puts something in an existing directory, under a name that is free there. -/
def make (t : Tree) (p : Path) (n : Node) : Except FileError Tree :=
  match t.walk .naming p with
  | .ok (.free l) =>
    match refusal? l (n = .directory) with
    | some o => .error (.blocked o p.toString)
    | none => .ok (t.put l n)
  | .ok (.taken _ _) => .error (.blocked .alreadyExists p.toString)
  | .error e => .error e

/-- Makes a link. Its target is looked at first: it is neither empty nor longer than a path. -/
def makeLink (t : Tree) (p : Path) (target : String) : Except FileError Tree :=
  if target.toList.contains '\x00' then .error .nullInPath
  else if target = "" then .error (.unlinked .notFound target p.toString)
  else if longestPath < target.utf8ByteSize then
    .error (.unlinked .nameTooLong target p.toString)
  else
    match t.make p (.link target) with
    | .error (.blocked o path) => .error (.unlinked o target path)
    | result => result

/-- Makes a directory unless there is one. What else is wrong counts only if there is none. -/
def ensureDirectory (t : Tree) (p : Path) : Except FileError Tree :=
  match t.make p .directory with
  | .error (.blocked .notFound path) => .error (.blocked .notFound path)
  | .error .nullInPath => .error .nullInPath
  | .error e => do if ← t.isDirectory p then return t else throw e
  | .ok t => .ok t

/-- Makes a directory and those above it that are missing; `above` counts the names that may be
left out at the end of the path. -/
def ensureUpTo (t : Tree) (p : Path) : (above : Nat) → Except FileError Tree
  | 0 => t.ensureDirectory p
  | above + 1 =>
    match t.ensureDirectory p with
    | .error (.blocked .notFound _) => do
      let t ← t.ensureUpTo p.parent above
      t.ensureDirectory p
    | result => result

/-- Makes a directory and those above it that are missing. -/
def ensureDirectories (t : Tree) (p : Path) : Except FileError Tree :=
  t.ensureUpTo p p.names.length

/-- What has become of a tree when a directory was to be made, whether it could be or not. -/
def attemptDirectory (t : Tree) (p : Path) : Tree :=
  (t.ensureDirectory p).toOption.getD t

/-- What has become of a tree when a directory and those above it were to be made. Where one of them
cannot be made, those above it stay. -/
def attemptUpTo (t : Tree) (p : Path) : (above : Nat) → Tree
  | 0 => t.attemptDirectory p
  | above + 1 =>
    match t.ensureDirectory p with
    | .error (.blocked .notFound _) =>
      match t.ensureUpTo p.parent above with
      | .ok between => between.attemptDirectory p
      | .error _ => t.attemptUpTo p.parent above
    | _ => t.attemptDirectory p

def attemptDirectories (t : Tree) (p : Path) : Tree :=
  t.attemptUpTo p p.names.length

/-- The files below the current directory of `after` that are not in `before` or hold other bytes
there, each by the names that lead there. -/
def changedFiles (before after : Tree) : List (List String × List UInt8) :=
  after.entries.filterMap fun (l, n) =>
    match n with
    | .file bytes =>
      if home.isPrefixOf l && before.node? l ≠ some n then some (l.drop home.length, bytes)
      else none
    | _ => none

end Tree
end DesignMetrics.Files
