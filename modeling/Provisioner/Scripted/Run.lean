import Provisioner.Platform
import Provisioner.Scripted.ApiServer
import Provisioner.Scripted.PackageManager

/-! Running a workflow against a scripted API server and a scripted package manager. The state
holds what is left of both scripts, the requests and calls received so far, in order, and the
events reported. -/

namespace Provisioner.Scripted

/-- The state of a scripted run. -/
structure Script where
  answers : List ServerAnswer
  packageAnswers : List PackageAnswer
  sent : List SentRequest := []
  calls : List PackageCall := []
  events : List (Scope × Event) := []

abbrev ScriptM := StateM Script

def nextAnswer : ScriptM ServerAnswer :=
  modifyGet fun s => match s.answers with
    | a :: rest => (a, { s with answers := rest })
    | [] => (.create, s)

def nextPackageAnswer : ScriptM PackageAnswer :=
  modifyGet fun s => match s.packageAnswers with
    | a :: rest => (a, { s with packageAnswers := rest })
    | [] => (.default, s)

def record (c : PackageCall) : ScriptM Unit :=
  modify fun s => { s with calls := s.calls ++ [c] }

def post (_ : Scope) (o : Kube.KubeObject) : ScriptM (Except ClientError Unit) := do
  let body := Json.write o.body
  modify fun s => { s with sent := s.sent ++ [⟨"POST", o.uri, o.body⟩] }
  let a ← nextAnswer
  return (a.respond body).result o.kind

def packages : PackageManager ScriptM where
  locate _ repo chart := do
    record (.locate repo chart)
    return locateAnswer repo chart (← nextPackageAnswer)
  load _ path := do
    record (.load path)
    return loadAnswer path (← nextPackageAnswer)
  install _ chart r := do
    record (.install chart r)
    return installAnswer r (← nextPackageAnswer)

def platform : Platform ScriptM where
  post := post
  packages := packages
  emit scope e := modify fun s => { s with events := s.events ++ [(scope, e)] }

def run {α : Type} (x : ScriptM α) (answers : List ServerAnswer)
    (packageAnswers : List PackageAnswer) : α × Script :=
  x.run { answers := answers, packageAnswers := packageAnswers }

end Provisioner.Scripted
