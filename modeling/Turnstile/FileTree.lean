import Turnstile.Bytes

/-! Directory trees: files, symbolic links and directories under names of arbitrary bytes, some of
which may not be opened, and the paths that lead through them. -/

namespace Turnstile

inductive FileTree
  | file (content : Bytes)
  | link (target : Bytes)
  | dir (entries : List (Bytes × FileTree))
  /-- A file that cannot be read, or a directory that can be neither listed nor entered. -/
  | closed (isDir : Bool)
  deriving Inhabited

namespace FileTree

def empty : FileTree := dir []

def isDir : FileTree → Bool
  | dir _ => true
  | closed isDir => isDir
  | _ => false

def isOpenDir : FileTree → Bool
  | dir _ => true
  | _ => false

def child? (name : Bytes) : FileTree → Option FileTree
  | dir entries => (entries.find? (·.1 == name)).map (·.2)
  | _ => none

/-- The entry at the place, no link followed. -/
def at? (t : FileTree) : List Bytes → Option FileTree
  | [] => some t
  | name :: names => (t.child? name).bind (·.at? names)

/-- Changes the entry of that name, or adds one at the end. -/
def update (name : Bytes) (f : Option FileTree → FileTree) :
    List (Bytes × FileTree) → List (Bytes × FileTree)
  | [] => [(name, f none)]
  | (n, e) :: rest => if n = name then (n, f (some e)) :: rest else (n, e) :: update name f rest

def entries : FileTree → List (Bytes × FileTree)
  | dir entries => entries
  | _ => []

/-- Puts an entry at the place, in the place of any entry there; directories on the way are
made. -/
def put (t : FileTree) : List Bytes → FileTree → FileTree
  | [], e => e
  | name :: names, e => dir (update name (fun old => (old.getD empty).put names e) t.entries)

def dot : Bytes := [46]
def dotDot : Bytes := [46, 46]

/-- Links followed on the way to one place. -/
def maxLinks : Nat := 40

/-- The place that the names lead to from the directory `here`; `enter` goes on from a link, with
the names of its target before the rest. -/
def followWith (root : FileTree) (enter : (here todo : List Bytes) → Option (List Bytes)) :
    (here todo : List Bytes) → Option (List Bytes)
  | here, [] => some here
  | here, name :: todo =>
    match root.at? here with
    | some (dir entries) =>
      if name = [] || name = dot then followWith root enter here todo
      else if name = dotDot then followWith root enter here.dropLast todo
      else match (dir entries).child? name with
        | none => none
        | some (link target) =>
          enter (if target.head? = some 47 then [] else here) (Bytes.splitOn 47 target ++ todo)
        | some _ => followWith root enter (here ++ [name]) todo
    | _ => none

/-- The place that the names lead to with at most so many links on the way. -/
def follow (root : FileTree) : (links : Nat) → (here todo : List Bytes) → Option (List Bytes)
  | 0 => followWith root fun _ _ => none
  | links + 1 => followWith root (follow root links)

/-- The place of a path, all links followed. The empty path leads nowhere. -/
def resolve? (root : FileTree) (path : Bytes) : Option (List Bytes) :=
  if path.isEmpty then none else follow root maxLinks [] (Bytes.splitOn 47 path)

def lookup? (root : FileTree) (path : Bytes) : Option FileTree :=
  (root.resolve? path).bind root.at?

/-- The last name of a path and what leads up to it. -/
def splitName (path : Bytes) : Bytes × Bytes :=
  let (name, before) := path.reverse.span (· != 47)
  (before.reverse, name.reverse)

/-- The entry that a path names, its last name not followed when it is a link. -/
def lookupEntry? (root : FileTree) (path : Bytes) : Option FileTree :=
  let (before, name) := splitName path
  if name = [] || name = dot || name = dotDot then root.lookup? path
  else if before.isEmpty then root.child? name
  else ((root.lookup? before).bind (·.child? name))

/-- Content of the file that a path leads to. -/
def read? (root : FileTree) (path : Bytes) : Option Bytes :=
  match root.lookup? path with
  | some (file content) => some content
  | _ => none

/-- The path of a name below a path. -/
def join (path name : Bytes) : Bytes :=
  if path.isEmpty || path.getLast? = some 47 then path ++ name else path ++ 47 :: name

mutual

/-- All entries at and below this one, each under its names from here. -/
def flatten (here : List Bytes) : FileTree → List (List Bytes × FileTree)
  | file content => [(here, file content)]
  | link target => [(here, link target)]
  | closed isDir => [(here, closed isDir)]
  | dir entries => (here, dir entries) :: flattenEntries here entries

def flattenEntries (here : List Bytes) : List (Bytes × FileTree) → List (List Bytes × FileTree)
  | [] => []
  | (name, e) :: rest => flatten (here ++ [name]) e ++ flattenEntries here rest

end

def bytesLe : Bytes → Bytes → Bool
  | [], _ => true
  | _ :: _, [] => false
  | a :: as, b :: bs => a < b || (a == b && bytesLe as bs)

/-- A directory goes before what it holds, and names go in byte order. -/
def namesLe : List Bytes → List Bytes → Bool
  | [], _ => true
  | _ :: _, [] => false
  | a :: as, b :: bs => if a == b then namesLe as bs else bytesLe a b

/-- Depth first, names in byte order. -/
def walk (t : FileTree) : List (List Bytes × FileTree) :=
  (flatten [] t).mergeSort fun a b => namesLe a.1 b.1

/-- What is met of the entries of a walk, and whether that is all. A directory that cannot be listed
is met and ends the walk. -/
def reach : List (List Bytes × FileTree) → List (List Bytes × FileTree) × Bool
  | [] => ([], true)
  | (names, closed true) :: _ => ([(names, closed true)], false)
  | e :: rest =>
    let (met, complete) := reach rest
    (e :: met, complete)

/-- Makes the directory of that name in `here`, unless the name leads to one. -/
def makeDir (root : FileTree) (here : List Bytes) (name : Bytes) : Option (FileTree × List Bytes) :=
  match follow root maxLinks here [name] with
  | some place => if (root.at? place).any isDir then some (root, place) else none
  | none =>
    if (root.at? (here ++ [name])).isSome || !(root.at? here).any isOpenDir then none
    else some (root.put (here ++ [name]) empty, here ++ [name])

/-- Makes the directories of a path that are missing. -/
def makeDirs (root : FileTree) (path : Bytes) : Option FileTree :=
  ((Bytes.splitOn 47 path).foldlM (fun s name => makeDir s.1 s.2 name) (root, [])).map (·.1)

/-- The place of a path, taken by its names alone. -/
def placeOf (path : Bytes) : List Bytes :=
  (Bytes.splitOn 47 path).foldl (fun here name =>
    if name = [] || name = dot then here
    else if name = dotDot then here.dropLast
    else here ++ [name]) []

end FileTree

end Turnstile
