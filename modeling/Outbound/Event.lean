import Outbound.Failure

/-! What a caller learns about a request: how it goes on, and last, in one closing event, how it
ends. -/

namespace Outbound

inductive Event
  | dataSend (id : RequestId) (written : Nat) (total : Option Nat)
  | responseReceived (id : RequestId) (status : Nat) (headers : List (String × String))
      (url : String)
  | dataReceivedProgress (id : RequestId) (read : Nat) (total : Option Nat)
  | incrementalDataReceived (id : RequestId) (data : String) (read : Nat) (total : Option Nat)
  | dataReceived (id : RequestId) (data : String)
  | requestComplete (id : RequestId)
  | requestError (id : RequestId) (message : String) (isTimeout : Bool)
  | requestCancelled (id : RequestId)
  deriving DecidableEq, Repr, Inhabited

namespace Event

def id : Event → RequestId
  | .dataSend id _ _ | .responseReceived id _ _ _ | .dataReceivedProgress id _ _
  | .incrementalDataReceived id _ _ _ | .dataReceived id _ | .requestComplete id
  | .requestError id _ _ | .requestCancelled id => id

def isTerminal : Event → Bool
  | .requestComplete _ | .requestError _ _ _ | .requestCancelled _ => true
  | _ => false

def ofFailure (id : RequestId) (f : Failure) : Event := .requestError id f.message f.isTimeout

@[simp] theorem id_ofFailure (id : RequestId) (f : Failure) : (ofFailure id f).id = id := rfl

@[simp] theorem isTerminal_ofFailure (id : RequestId) (f : Failure) :
    (ofFailure id f).isTerminal = true := rfl

end Event
end Outbound
