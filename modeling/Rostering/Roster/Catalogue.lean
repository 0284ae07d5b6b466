import Rostering.Calendar.Reading
import Rostering.Roster.Resource
import Rostering.Text.Basic

namespace Rostering.Roster

inductive FieldKind where
  | text | boolean | integer | date | timestamp
deriving DecidableEq, Repr

namespace FieldKind

def all : List FieldKind := [.text, .boolean, .integer, .date, .timestamp]

def name : FieldKind → String
  | .text => "text"
  | .boolean => "boolean"
  | .integer => "integer"
  | .date => "date"
  | .timestamp => "timestamp"

def ofName? (s : String) : Option FieldKind := all.find? (fun kind => kind.name = s)

def expected : FieldKind → String
  | .text => "text"
  | .boolean => "true or false"
  | .integer => "an integer"
  | .date => "a date (YYYY-MM-DD)"
  | .timestamp => "an ISO 8601 date or timestamp"

def normalize (kind : FieldKind) (value : String) : Option String :=
  match kind with
  | .text => some value
  | .boolean =>
      if Text.sameIgnoringCase value "true" then some "true"
      else if Text.sameIgnoringCase value "false" then some "false"
      else none
  | .integer => (Text.i64? value.toList).map Text.intText
  | .date => (Calendar.readDate value.toList).map Calendar.Date.text
  | .timestamp => (Calendar.readTimestamp value.toList).map Calendar.Timestamp.literal

end FieldKind

structure Catalogue where
  resource : Resource
  defaultSort : String
  filterable : List String
  selectable : List String
  kinds : List (String × FieldKind)
deriving DecidableEq, Repr

namespace Catalogue

def kindOf (c : Catalogue) (field : String) : FieldKind :=
  ((c.kinds.find? (fun entry => entry.1 = field)).map (·.2)).getD .text

end Catalogue

def academicSessionsCatalogue : Catalogue where
  resource := .academicSessions
  defaultSort := "sourcedId"
  filterable :=
    ["sourcedId", "status", "dateLastModified", "title", "type", "startDate", "endDate",
     "schoolYear"]
  selectable :=
    ["sourcedId", "status", "dateLastModified", "title", "type", "startDate", "endDate", "parent",
     "schoolYear", "metadata"]
  kinds :=
    [("dateLastModified", .timestamp), ("startDate", .date), ("endDate", .date),
     ("schoolYear", .integer)]

def classesCatalogue : Catalogue where
  resource := .classes
  defaultSort := "sourcedId"
  filterable :=
    ["sourcedId", "status", "dateLastModified", "title", "classCode", "classType", "location",
     "periods"]
  selectable :=
    ["sourcedId", "status", "dateLastModified", "title", "classCode", "classType", "location",
     "grades", "subjects", "course", "school", "terms", "subjectCodes", "periods", "resources",
     "metadata"]
  kinds :=
    [("dateLastModified", .timestamp)]

def coursesCatalogue : Catalogue where
  resource := .courses
  defaultSort := "sourcedId"
  filterable :=
    ["sourcedId", "status", "dateLastModified", "title", "courseCode"]
  selectable :=
    ["sourcedId", "status", "dateLastModified", "title", "schoolYear", "courseCode", "grades",
     "subjects", "org", "subjectCodes", "resources", "metadata"]
  kinds :=
    [("dateLastModified", .timestamp)]

def demographicsCatalogue : Catalogue where
  resource := .demographics
  defaultSort := "sourcedId"
  filterable :=
    ["sourcedId", "status", "dateLastModified", "birthDate", "sex",
     "americanIndianOrAlaskaNative", "asian", "blackOrAfricanAmerican",
     "nativeHawaiianOrOtherPacificIslander", "white", "demographicRaceTwoOrMoreRaces",
     "hispanicOrLatinoEthnicity", "countryOfBirthCode", "stateOfBirthAbbreviation", "cityOfBirth"]
  selectable :=
    ["sourcedId", "status", "dateLastModified", "birthDate", "sex",
     "americanIndianOrAlaskaNative", "asian", "blackOrAfricanAmerican",
     "nativeHawaiianOrOtherPacificIslander", "white", "demographicRaceTwoOrMoreRaces",
     "hispanicOrLatinoEthnicity", "countryOfBirthCode", "stateOfBirthAbbreviation", "cityOfBirth",
     "publicSchoolResidenceStatus", "metadata"]
  kinds :=
    [("dateLastModified", .timestamp), ("birthDate", .date),
     ("americanIndianOrAlaskaNative", .boolean), ("asian", .boolean),
     ("blackOrAfricanAmerican", .boolean), ("nativeHawaiianOrOtherPacificIslander", .boolean),
     ("white", .boolean), ("demographicRaceTwoOrMoreRaces", .boolean),
     ("hispanicOrLatinoEthnicity", .boolean)]

def enrollmentsCatalogue : Catalogue where
  resource := .enrollments
  defaultSort := "sourcedId"
  filterable :=
    ["sourcedId", "status", "dateLastModified", "role", "primary", "beginDate", "endDate"]
  selectable :=
    ["sourcedId", "status", "dateLastModified", "class", "user", "school", "role", "primary",
     "beginDate", "endDate", "metadata"]
  kinds :=
    [("dateLastModified", .timestamp), ("primary", .boolean), ("beginDate", .date),
     ("endDate", .date)]

def orgsCatalogue : Catalogue where
  resource := .orgs
  defaultSort := "sourcedId"
  filterable :=
    ["sourcedId", "status", "dateLastModified", "name", "type", "identifier"]
  selectable :=
    ["sourcedId", "status", "dateLastModified", "name", "type", "identifier", "parent",
     "children", "metadata"]
  kinds :=
    [("dateLastModified", .timestamp)]

def usersCatalogue : Catalogue where
  resource := .users
  defaultSort := "sourcedId"
  filterable :=
    ["sourcedId", "status", "dateLastModified", "username", "enabledUser", "givenName",
     "familyName", "middleName", "preferredFirstName", "preferredMiddleName", "preferredLastName",
     "roles", "identifier", "email"]
  selectable :=
    ["sourcedId", "status", "dateLastModified", "userMasterIdentifier", "username", "userIds",
     "enabledUser", "givenName", "familyName", "middleName", "preferredFirstName",
     "preferredMiddleName", "preferredLastName", "pronouns", "roles", "userProfiles",
     "identifier", "email", "sms", "phone", "agentSourceIds", "grades", "password", "metadata"]
  kinds :=
    [("dateLastModified", .timestamp), ("enabledUser", .boolean)]

def catalogue : Resource → Catalogue
  | .academicSessions => academicSessionsCatalogue
  | .classes => classesCatalogue
  | .courses => coursesCatalogue
  | .demographics => demographicsCatalogue
  | .enrollments => enrollmentsCatalogue
  | .orgs => orgsCatalogue
  | .users => usersCatalogue

inductive CatalogueFault where
  | defaultSort (resource field : String)
  | duplicate (resource field : String)
  | typed (resource field : String)
deriving DecidableEq, Repr

def CatalogueFault.message : CatalogueFault → String
  | .defaultSort resource field =>
      resource ++ ": default sort field '" ++ field ++ "' is not selectable"
  | .duplicate resource field => resource ++ ": field '" ++ field ++ "' is listed twice"
  | .typed resource field => resource ++ ": typed field '" ++ field ++ "' is not filterable"

def firstRepeated (seen : List String) : List String → Option String
  | [] => none
  | field :: rest => if field ∈ seen then some field else firstRepeated (seen ++ [field]) rest

def Catalogue.fault? (c : Catalogue) : Option CatalogueFault :=
  if c.defaultSort ∉ c.selectable then some (.defaultSort c.resource.name c.defaultSort)
  else match (firstRepeated [] c.filterable).or (firstRepeated [] c.selectable) with
    | some field => some (.duplicate c.resource.name field)
    | none => (c.kinds.find? (fun entry => entry.1 ∉ c.filterable)).map fun entry =>
        .typed c.resource.name entry.1

def catalogueFault? : Option CatalogueFault := Resource.all.findSome? fun r => (catalogue r).fault?

theorem catalogue_resource (resource : Resource) : (catalogue resource).resource = resource := by
  cases resource <;> rfl

theorem catalogueFault?_eq_none : catalogueFault? = none := by
  decide

theorem catalogue_selectable_nodup (resource : Resource) :
    (catalogue resource).selectable.Nodup := by
  cases resource <;> decide

theorem catalogue_defaultSort (resource : Resource) :
    (catalogue resource).defaultSort = "sourcedId" := by
  cases resource <;> rfl

theorem catalogue_defaultSort_selectable (resource : Resource) :
    (catalogue resource).defaultSort ∈ (catalogue resource).selectable := by
  cases resource <;> decide

end Rostering.Roster
