import Clearance.Confirmation.Outcome
import Clearance.Confirmation.Status
import Clearance.Json.Body
import Clearance.Schema.Document

/-!
# Approval services

A service is sent the inquiry as a document and answers with a document of its own.  It approves
by the member `approved` alone, which must be a truth value.
-/

namespace Clearance.Confirmation

/-- What comes back from a service. -/
inductive Reaction where
  | response (status : Status) (body : String)
  | timeout
  /-- The connection failed. -/
  | failure (message : String)
  /-- The exchange is at fault in a way that has nothing to do with the connection. -/
  | misuse (kind message : String)
  deriving Repr, Inhabited

structure Service where
  url : String
  timeoutSeconds : Time.Amount := .real (Binary64.ofInt 30)
  reaction : Reaction

/-- What is sent to a service. -/
structure Post where
  url : String
  body : Json
  deriving Inhabited

/-- Why a service gave no answer. -/
inductive ServiceFault where
  | fault (f : Fault)
  | misuse (kind message : String)
  /-- The inquiry has no document. -/
  | unwritable

namespace Service

/-- What the body of a response says. -/
def approval (permission body : String) : Except Fault Bool :=
  let told (message : String) : Except Fault Bool :=
    .error (Fault.of (.confirmation permission) message)
  match Json.ofBody body with
  | .error f => told ("Approval service returned invalid JSON: " ++ f.message)
  | .ok (.object members) =>
      match members.reverse.lookup "approved" with
      | some (.bool yes) => .ok yes
      | _ => told "Approval service response has no boolean 'approved' field"
  | .ok _ => told "Approval service response has no boolean 'approved' field"

/-- What a reaction to an inquiry means. -/
def judge (permission : String) (s : Service) : Except ServiceFault Bool :=
  let unreachable (message : String) : Except ServiceFault Bool :=
    .error (.fault (Fault.of (.confirmationTransport permission s.url message)))
  match s.reaction with
  | .timeout => .error (.fault (Fault.of (.confirmationTimeout permission s.timeoutSeconds)))
  | .failure message => unreachable message
  | .misuse kind message => .error (.misuse kind message)
  | .response status body =>
      if status.isSuccess then (approval permission body).mapError ServiceFault.fault
      else unreachable (status.message s.url)

/-- Sends an inquiry; the answer, and what was posted. -/
def ask (i : Inquiry) (s : Service) : Except ServiceFault Bool × List Post :=
  match Schema.inquiryDocument true i with
  | .error _ => (.error .unwritable, [])
  | .ok body => (judge i.permission s, [{ url := s.url, body }])

end Service

/-! ## Clients -/

/-- A connection that sends inquiries, with headers of its own. -/
structure Client where
  timeoutSeconds : Time.Amount
  headers : Table String
  isOpen : Bool := true

namespace Client

/-- The value of a header, whatever the case of its name. -/
def header? (name : String) (c : Client) : Option String :=
  (c.headers.find? fun (n, _) => n.toLower == name.toLower).map Prod.snd

def close (c : Client) : Client :=
  { c with isOpen := false }

end Client

/-- The client that a service keeps: made at first use, then used again until it is closed. -/
structure Connection where
  timeoutSeconds : Time.Amount
  headers : Table String
  client? : Option Client := none

namespace Connection

/-- The client to send with. -/
def connect (c : Connection) : Client × Connection :=
  let client := c.client?.getD { timeoutSeconds := c.timeoutSeconds, headers := c.headers }
  (client, { c with client? := some client })

/-- Closes the client, which is then forgotten. -/
def close (c : Connection) : Option Client × Connection :=
  (c.client?.map Client.close, { c with client? := none })

theorem connect_connect (c : Connection) : c.connect.2.connect = c.connect := rfl

end Connection

end Clearance.Confirmation
