import Weave.World

/-!
# Weave.Script — a toolchain that answers from a script

A scripted toolchain runs nothing: it looks for the first response that fits a request and notes
down every request. What no response fits is answered by its own source text.
-/

namespace Weave

/-- What a scripted toolchain does for a request. -/
inductive Reply where
  | output (output : ToolOutput)
  | failure (status stderr : Text)
deriving Repr, DecidableEq, Inhabited

/-- A reply and the requests that it fits: those with the given mode and source text, or any. -/
structure Response where
  mode : Option Mode
  body : Option Text
  /-- Whether the response is gone after it was used. -/
  once : Bool
  reply : Reply
deriving Repr, DecidableEq, Inhabited

structure Script where
  responses : List Response
  /-- The requests so far, the first one first. -/
  requests : List Request
deriving Repr, DecidableEq, Inhabited

def Response.fits (response : Response) (request : Request) : Bool :=
  response.mode.all (· = request.mode) && response.body.all (· = request.body)

namespace Script

/-- A script before the first request. -/
def ofResponses (responses : List Response) : Script :=
  ⟨responses, []⟩

/-- The responses after one of them was used. -/
def used (request : Request) : List Response → List Response
  | [] => []
  | r :: rs =>
    if r.fits request then if r.once then rs else r :: rs
    else r :: used request rs

/-- What the script says to a request. -/
def answer (script : Script) (request : Request) : Except Failure ToolOutput :=
  match script.responses.find? (·.fits request) with
  | none => .ok ⟨request.body, []⟩
  | some response =>
    match response.reply with
    | .output output => .ok output
    | .failure status stderr => .error (.toolchainFailure request.mode status stderr)

def note (script : Script) (request : Request) : Script :=
  ⟨used request script.responses, script.requests ++ [request]⟩

end Script

def Toolchain.scripted : Toolchain (World Script) where
  execute request world :=
    (world.tool.answer request, { world with tool := world.tool.note request })

end Weave
