/-!
# Fetching designs

What is needed to ask a server for a document: an access token, which is never shown, and what can
go wrong.
-/

namespace DesignCode

/-- A secret that gives access to documents. -/
structure AccessToken where
  secret : String
deriving DecidableEq

/-- How a token is shown: without its secret. -/
def AccessToken.display (_ : AccessToken) : String := "AccessToken(***)"

/-- Why a document could not be fetched. -/
inductive FetchFault where
  | unauthorized
  | status (code : Nat) (reason : String)
  | transport (reason : String)
deriving DecidableEq

def FetchFault.message : FetchFault → String
  | unauthorized => "Access token was rejected"
  | status code reason => "Failed to fetch design: " ++ code.repr ++ " " ++ reason
  | transport reason => "Transport error: " ++ reason

end DesignCode
