import ApiTrial.Request.Basic

/-!
Addresses. A path is appended to the base address of the server unless it is an address itself.
-/
namespace ApiTrial.Url

/-- A text without the slashes at its end. -/
def trimSlashes (text : String) : String :=
  String.ofList (text.toList.reverse.dropWhile (· == '/')).reverse

def startsWith (mark text : String) : Bool := mark.toList.isPrefixOf text.toList

def isAbsolute (path : String) : Bool := startsWith "http://" path || startsWith "https://" path

/-- The address of a path below a base that ends in no slash. -/
def ofPath (base path : String) : String :=
  if isAbsolute path then path
  else if startsWith "/" path then base ++ path
  else base ++ "/" ++ path

end ApiTrial.Url
