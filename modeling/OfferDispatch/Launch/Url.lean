import OfferDispatch.Id.Name

/-!
# Addresses below the controller

Addresses are put together from segments with one slash between them: a slash that a segment brings
along where it is joined is not repeated.
-/

namespace OfferDispatch.Url

/-- A text without the slash it ends with, if it does. -/
def dropLastSlash (cs : List Char) : List Char :=
  if cs.getLast? = some '/' then cs.dropLast else cs

/-- A text without the slash it starts with, if it does. -/
def dropFirstSlash : List Char → List Char
  | '/' :: cs => cs
  | cs => cs

def joinChars (front back : List Char) : List Char :=
  dropLastSlash front ++ '/' :: dropFirstSlash back

/-- Two segments with a slash between them. -/
def join (front back : String) : String :=
  String.ofList (joinChars front.toList back.toList)

/-- Where an agent finds out how to connect. -/
def agent (controller : String) (worker : TaskId) : String :=
  join (join (join controller "computer") worker.text) "slave-agent.jnlp"

/-- Where the agent program is fetched from. -/
def agentProgram (controller : String) : String := join controller "jnlpJars/agent.jar"

end OfferDispatch.Url
