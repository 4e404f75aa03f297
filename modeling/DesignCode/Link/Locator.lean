import DesignCode.Link.Query
import DesignCode.Link.Url

/-!
# Where a design is

A `Locator` names a design file and maybe a node in it.  `Locator.parse` reads it off a link to the
file, and `Locator.apiPath` is the path under which a server has the document.
-/

namespace DesignCode

/-- A design file, and maybe a node in it. -/
structure Locator where
  fileId : String
  nodeId : Option String := none
deriving DecidableEq

/-- Why a text is no link to a design file. -/
inductive LocatorFault where
  | invalidUrl (url : String) (reason : String)
  | notADesignUrl (url : String)
  | missingFileId (url : String)
deriving DecidableEq

namespace LocatorFault

def message : LocatorFault → String
  | invalidUrl url reason => "Invalid URL '" ++ url ++ "': " ++ reason
  | notADesignUrl url => "Not a design file URL: " ++ url
  | missingFileId url => "Missing or malformed file id in " ++ url

end LocatorFault

namespace Locator

def isDesignHost : Link.Host → Bool
  | .name cs => cs = "figma.com".toList ∨ ".figma.com".toList.isSuffixOf cs
  | _ => false

/-- Whether a segment says that a file id follows. -/
def isFileWord (segment : List Char) : Bool := String.ofList segment ∈ ["file", "design"]

/-- Whether a segment is a file id. -/
def isFileId (segment : List Char) : Bool := segment ≠ [] ∧ segment.all Char.isAlphanum

/-- The node that a query asks for; hyphens stand for colons. -/
def nodeOf (query : List Char) : Option String :=
  match Link.Query.value? "node-id".toList query with
  | none | some [] => none
  | some cs => some (String.ofList (cs.map fun c => if c = '-' then ':' else c))

/-- Reads a locator off a link, which may stand between blanks. -/
def parse (input : String) : Except LocatorFault Locator :=
  match Link.Url.ofText (Text.trim input.toList) with
  | .error fault => .error (.invalidUrl input fault.message)
  | .ok url =>
    if url.host.any isDesignHost then
      match url.path.getD [] with
      | word :: rest =>
        if isFileWord word then
          match rest with
          | fileId :: _ =>
            if isFileId fileId then .ok ⟨String.ofList fileId, nodeOf url.query⟩
            else .error (.missingFileId input)
          | [] => .error (.missingFileId input)
        else .error (.notADesignUrl input)
      | [] => .error (.notADesignUrl input)
    else .error (.notADesignUrl input)

/-- A colon as it stands in a query. -/
def escapedColon (c : Char) : List Char := if c = ':' then ['%', '3', 'A'] else [c]

/-- The path under which a server has the document. -/
def apiPath (l : Locator) : String :=
  match l.nodeId with
  | some id =>
    "files/" ++ l.fileId ++ "/nodes?ids=" ++ String.ofList (id.toList.flatMap escapedColon)
  | none => "files/" ++ l.fileId

def display (l : Locator) : String :=
  match l.nodeId with
  | some id => l.fileId ++ "#" ++ id
  | none => l.fileId

end Locator

end DesignCode
