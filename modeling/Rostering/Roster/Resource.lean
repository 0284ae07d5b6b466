import Rostering.Text.Basic

namespace Rostering.Roster

inductive Resource where
  | academicSessions | classes | courses | demographics | enrollments | orgs | users
deriving DecidableEq, Repr

namespace Resource

def all : List Resource :=
  [.academicSessions, .classes, .courses, .demographics, .enrollments, .orgs, .users]

def name : Resource → String
  | .academicSessions => "academicSessions"
  | .classes => "classes"
  | .courses => "courses"
  | .demographics => "demographics"
  | .enrollments => "enrollments"
  | .orgs => "orgs"
  | .users => "users"

def singular : Resource → String
  | .academicSessions => "academicSession"
  | .classes => "class"
  | .courses => "course"
  | .demographics => "demographics"
  | .enrollments => "enrollment"
  | .orgs => "org"
  | .users => "user"

def ofName? (s : String) : Option Resource := all.find? (fun resource => resource.name = s)

end Resource

def scopeBase : String := "https://purl.imsglobal.org/spec/or/v1p2/scope/"

def fullScope : String := scopeBase ++ "roster.readonly"

def requiredScope : Resource → String
  | .demographics => scopeBase ++ "roster-demographics.readonly"
  | _ => scopeBase ++ "roster-core.readonly"

def scopeMessage (resource : Resource) : String :=
  "Insufficient scope: your token must have the '" ++ fullScope ++ "' or '" ++
    requiredScope resource ++ "' scope to access this route."

structure Grant where
  scopes : List String
deriving Repr

namespace Grant

def ofClaim (claim : String) : Grant := ⟨(Text.words claim.toList).map String.ofList⟩

def holds (grant : Grant) (scope : String) : Bool := decide (scope ∈ grant.scopes)

def allows (grant : Grant) (resource : Resource) : Bool :=
  grant.holds fullScope || grant.holds (requiredScope resource)

theorem allows_iff (grant : Grant) (resource : Resource) :
    grant.allows resource = true ↔
      fullScope ∈ grant.scopes ∨ requiredScope resource ∈ grant.scopes := by
  simp [allows, holds]

end Grant
end Rostering.Roster
