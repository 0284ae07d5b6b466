import Rostering.Roster.Catalogue

namespace Rostering.Roster

structure Restriction where
  field : String
  value : String
deriving DecidableEq, Repr

def Restriction.text (r : Restriction) : String := r.field ++ "='" ++ r.value ++ "'"

inductive Endpoint where
  | academicSessions | gradingPeriods | terms | classes | courses | demographics | enrollments
  | orgs | schools | users | students | teachers
deriving DecidableEq, Repr

namespace Endpoint

def all : List Endpoint :=
  [.academicSessions, .gradingPeriods, .terms, .classes, .courses, .demographics, .enrollments,
   .orgs, .schools, .users, .students, .teachers]

def path : Endpoint → String
  | .academicSessions => "academicSessions"
  | .gradingPeriods => "gradingPeriods"
  | .terms => "terms"
  | .classes => "classes"
  | .courses => "courses"
  | .demographics => "demographics"
  | .enrollments => "enrollments"
  | .orgs => "orgs"
  | .schools => "schools"
  | .users => "users"
  | .students => "students"
  | .teachers => "teachers"

def resource : Endpoint → Resource
  | .academicSessions | .gradingPeriods | .terms => .academicSessions
  | .classes => .classes
  | .courses => .courses
  | .demographics => .demographics
  | .enrollments => .enrollments
  | .orgs | .schools => .orgs
  | .users | .students | .teachers => .users

def restriction? : Endpoint → Option Restriction
  | .gradingPeriods => some ⟨"type", "gradingPeriod"⟩
  | .terms => some ⟨"type", "term"⟩
  | .schools => some ⟨"type", "school"⟩
  | .students => some ⟨"role", "student"⟩
  | .teachers => some ⟨"role", "teacher"⟩
  | _ => none

def catalogue (endpoint : Endpoint) : Catalogue := Roster.catalogue endpoint.resource

def collectionKey (endpoint : Endpoint) : String := endpoint.resource.name

def singularKey (endpoint : Endpoint) : String := endpoint.resource.singular

def ofPath? (path : String) : Option Endpoint := all.find? (fun endpoint => endpoint.path = path)

theorem mem_all (endpoint : Endpoint) : endpoint ∈ all := by
  cases endpoint <;> decide

theorem ofPath?_path (endpoint : Endpoint) : ofPath? endpoint.path = some endpoint := by
  cases endpoint <;> decide

end Endpoint
end Rostering.Roster
