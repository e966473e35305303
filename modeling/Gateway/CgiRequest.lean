import Gateway.Mount

/-!
Requests in the CGI form that synchronous applications take: named variables and a body that is read
once. Headers are variables too, under names of their own.
-/
namespace Gateway

/-- Variables, of which each name has at most one, and the part of the body not read yet. -/
structure CgiRequest where
  vars : List (String × String) := []
  input : Bytes := []
  deriving Repr, DecidableEq

namespace CgiRequest

def requestMethod : String := "REQUEST_METHOD"
def pathInfo : String := "PATH_INFO"
def scriptName : String := "SCRIPT_NAME"
def queryString : String := "QUERY_STRING"
def serverName : String := "SERVER_NAME"
def serverPort : String := "SERVER_PORT"
def serverProtocol : String := "SERVER_PROTOCOL"
def remoteAddr : String := "REMOTE_ADDR"
def contentType : String := "CONTENT_TYPE"
def contentLength : String := "CONTENT_LENGTH"

def get? (r : CgiRequest) (key : String) : Option String := r.vars.lookup key

/-- Sets one variable of a list, in its place if it is there and at the end otherwise. -/
def setIn (key value : String) : List (String × String) → List (String × String)
  | [] => [(key, value)]
  | (k, v) :: rest => if k = key then (key, value) :: rest else (k, v) :: setIn key value rest

def set (r : CgiRequest) (key value : String) : CgiRequest :=
  { r with vars := setIn key value r.vars }

/-- A request for a path, at the root of its host. -/
def ofPath (method path : String) : CgiRequest :=
  { vars := [(requestMethod, method), (pathInfo, path), (scriptName, ""), (queryString, "")] }

def method (r : CgiRequest) : String := (r.get? requestMethod).getD "GET"

/-- The path below the root. A missing or empty one is `/`. -/
def path (r : CgiRequest) : String :=
  match r.get? pathInfo with
  | some p => if p.isEmpty then "/" else p
  | none => "/"

/-- The root that was consumed on the way to the application. -/
def root (r : CgiRequest) : String := (r.get? scriptName).getD ""

/-- Upper case with `_` for `-`, as variables spell header names. -/
def variableSpelling (name : String) : String :=
  .ofList (name.toList.map fun c => if c = '-' then '_' else c.toUpper)

def headerVariable (name : String) : String := "HTTP_" ++ variableSpelling name

/-- The variable in which a header is stored: two of them have no `HTTP_` in front. -/
def storedVariable (name : String) : String :=
  if name.toLower = "content-type" then contentType
  else if name.toLower = "content-length" then contentLength
  else headerVariable name

/-- The request with one more header. Repeated headers are joined by commas. -/
def addHeader (r : CgiRequest) (name value : String) : CgiRequest :=
  let key := storedVariable name
  match r.get? key with
  | some old => r.set key (old ++ "," ++ value)
  | none => r.set key value

/-- The value of a header among the `HTTP_` variables. -/
def header? (r : CgiRequest) (name : String) : Option String := r.get? (headerVariable name)

/-- The next bytes of the body, at most `n` if given, and the request with the rest. -/
def read (r : CgiRequest) (n : Option Nat) : Bytes × CgiRequest :=
  match n with
  | none => (r.input, { r with input := [] })
  | some n => (r.input.take n, { r with input := r.input.drop n })

/-- The request behind a mount point: the path always starts with a slash, and what was taken off it
moves to the root. -/
def behind (r : CgiRequest) (m : Mount) : CgiRequest :=
  let stripped := Mount.strip r.path m.text
  let moved := r.set pathInfo stripped.path
  if stripped.isMatch then moved.set scriptName (Mount.extendRoot r.root stripped.matched)
  else moved

theorem lookup_setIn (key value k : String) (vs : List (String × String)) :
    (setIn key value vs).lookup k = if k = key then some value else vs.lookup k := by
  induction vs with
  | nil =>
    by_cases h : k = key
    · simp [setIn, h]
    · have hb : (k == key) = false := beq_false_of_ne h
      simp [setIn, List.lookup_cons, hb, h]
  | cons v rest ih =>
    obtain ⟨k', v⟩ := v
    rw [setIn]
    by_cases hk : k = k'
    · subst hk
      split
      · next heq => simp [heq]
      · simp
    · have hb : (k == k') = false := beq_false_of_ne hk
      split
      · next heq =>
        subst heq
        simp [List.lookup_cons, hb, hk]
      · simp [List.lookup_cons, hb, ih]

theorem get?_set (r : CgiRequest) (key value k : String) :
    (r.set key value).get? k = if k = key then some value else r.get? k :=
  lookup_setIn key value k r.vars

@[simp] theorem input_set (r : CgiRequest) (key value : String) :
    (r.set key value).input = r.input := rfl

/-- Moving behind a mount point leaves the method as it is. -/
theorem method_behind (r : CgiRequest) (m : Mount) : (r.behind m).method = r.method := by
  have hpath : ¬ requestMethod = pathInfo := by decide
  have hroot : ¬ requestMethod = scriptName := by decide
  unfold behind method
  dsimp only
  split <;> simp only [get?_set, if_neg hpath, if_neg hroot]

/-- Moving behind a mount point reads nothing of the body. -/
theorem input_behind (r : CgiRequest) (m : Mount) : (r.behind m).input = r.input := by
  unfold behind
  dsimp only
  split <;> simp only [input_set]

end CgiRequest
end Gateway
