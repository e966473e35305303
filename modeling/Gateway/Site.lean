import Gateway.MediaType
import Gateway.SyncApp
import Gateway.Program
import Gateway.Volume

/-!
Static sites: the regular files strictly below one directory, found by request path and served to
either kind of caller.
-/
namespace Gateway

/-- A directory of a volume from which files are served. `root` is spelled as it was configured, with
the working directory before it if that is relative: a site whose root is not absolute has no files. -/
structure Site where
  volume : Volume
  root : List Char

/-- What a request path leads to. -/
inductive Lookup where
  | found (p : Location) (file : File)
  /-- The path leads out of the site. -/
  | escaped (target : Location)
  | missing
  deriving Repr, DecidableEq

namespace Lookup

def file? : Lookup → Option File
  | found _ file => some file
  | _ => none

/-- The file that is found, if it can be opened and measured. -/
def opened? (lookup : Lookup) : Option File := lookup.file?.filter File.opens

end Lookup

namespace Site

def joined (root below : List Char) : List Char :=
  if root.getLast? = some '/' then root ++ below else root ++ '/' :: below

/-- The request path with `/` for the empty one. -/
def requested (path : List Char) : List Char := if path = [] then ['/'] else path

/-- The path at which the file for a request path is sought. -/
def candidate (site : Site) (path : List Char) : List Char :=
  joined site.root ((Path.collapseChars (requested path)).dropWhile (· = '/'))

/-- Finds the file for a request path. Both the root and the candidate are made canonical first, so
no link leads out. -/
def resolve (site : Site) (path : List Char) : Lookup :=
  match site.volume.canonical? site.root, site.volume.canonical? (site.candidate path) with
  | some root, some p =>
    if root.isPrefixOf p then
      match site.volume.entry? p with
      | some (.file file) => .found p file
      | _ => .missing
    else .escaped p
  | _, _ => .missing

/-- The notice of a lookup for `path`: only an escape is worth one. -/
def notices (path : String) : Lookup → List Event
  | .escaped target =>
    [.logged (.lookupEscaped (.ofList (requested path.toList)) (.ofList target.text))]
  | _ => []

/-- Bytes in a full chunk of a file. -/
def chunkSize : Nat := 65536

/-- `data` in chunks of `size` bytes, of which only the last may be shorter. -/
def chunksOf (size : Nat) (data : Bytes) : List Bytes :=
  if data = [] ∨ size = 0 then []
  else data.take size :: chunksOf size (data.drop size)
  termination_by data.length
  decreasing_by
    next h =>
    have := List.length_pos_iff.2 (not_or.1 h).1
    have := Nat.pos_of_ne_zero (not_or.1 h).2
    simp only [List.length_drop]
    omega

def textPlain : Field := ("Content-Type", "text/plain; charset=utf-8")

/-- The headers of a file. Its type follows the requested name, not what a link leads to. -/
def fileHeaders (path : String) (file : File) : List Field :=
  [("Content-Type", MediaType.ofPath path), ("Content-Length", toString file.size)]

def isGet (method : String) : Bool := method.toLower == "get"
def isHead (method : String) : Bool := method.toLower == "head"

/-- The methods a site answers, in any letter case. -/
def serves (method : String) : Bool := isGet method || isHead method

/-- What is read of a file for a request, in chunks: for a HEAD nothing. -/
def chunksFor (method : String) (file : File) : List Bytes :=
  if isHead method then [] else chunksOf chunkSize file.data

/-- The error with which reading a file for a request ends. -/
def readError? (method : String) (file : File) : Option String :=
  if isGet method then file.readError? else none

/-- The notice that reading a file for a request has failed, if it does. -/
def readNotices (method : String) (file : File) : List Event :=
  (readError? method file).toList.map fun error => .logged (.fileUnreadable error)

/-- The site as a synchronous application. Whatever is no file that can be opened and measured is a
404. Where reading a file fails its body ends. -/
def syncApp (site : Site) : SyncApp := fun r =>
  let notFound (events : List Event) : SyncRun :=
    { sink := [.start 404 [textPlain]], request := r
      result := .body { chunks := [Text.utf8 "Not Found"] }, events }
  if !serves r.method then notFound []
  else
    let lookup := site.resolve r.path.toList
    match lookup.opened? with
    | none => notFound (notices r.path lookup)
    | some file =>
      { sink := [.start 200 (fileHeaders r.path file)], request := r
        result := .body { chunks := chunksFor r.method file }
        events := readNotices r.method file }

def wholeResponse (status : Nat) (headers : List Field) (body : String) : List Message :=
  [.responseStart status headers, .responseBody (Text.utf8 body) false]

/-- The messages for a file. Where reading it fails the final one is not sent. -/
def fileResponse (method path : String) (file : File) : List Message :=
  let last := if (readError? method file).isSome then [] else [.responseBody [] false]
  .responseStart 200 (fileHeaders path file) ::
    ((chunksFor method file).map (.responseBody · true) ++ last)

/-- What the site sends for a request. -/
def response (site : Site) (method path : String) : List Message :=
  if !serves method then
    wholeResponse 405 [textPlain, ("Allow", "GET, HEAD")] "Method Not Allowed"
  else
    match (site.resolve path.toList).opened? with
    | none => wholeResponse 404 [textPlain] "Not Found"
    | some file => fileResponse method path file

/-- The error with which reading the file for a request ends, if one is read. -/
def failure? (site : Site) (method path : String) : Option String :=
  (site.resolve path.toList).opened?.bind (readError? method)

/-- How the call for a request ends. -/
def outcome (site : Site) (method path : String) : Except AppError Unit :=
  match site.failure? method path with
  | none => .ok ()
  | some error => .error (.raised ("static file read failed: " ++ error))

/-- What the site does for a request, apart from the notices of the lookup. -/
def program (site : Site) (method path : String) : Program :=
  .sendAll (site.response method path) (.finish (site.outcome method path))

/-- The site as an asynchronous application. It serves requests only. -/
def asyncApp (site : Site) : AsyncApp := fun scope =>
  if scope.kind ≠ .http then
    .finish (.error (.raised
      ("static files cannot serve '" ++ scope.kind.name ++ "' connections")))
  else
    let events :=
      if serves scope.method then notices scope.path (site.resolve scope.path.toList) else []
    .tellAll events (site.program scope.method scope.path)

end Site
end Gateway
