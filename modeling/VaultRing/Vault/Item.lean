import VaultRing.Timestamp

namespace VaultRing

inductive Category where
  | apiCredential
  | login
  | password
  | secureNote
  | custom
  | unsupported
deriving DecidableEq, Inhabited

inductive FieldType where
  | concealed
  | text
  | email
  | url
  | oneTimePassword
  | unknown
deriving DecidableEq, Inhabited

inductive ItemState where
  | active
  | archived
  | deleted
  /-- Any other state; never taken for active. -/
  | unknown
deriving DecidableEq, Inhabited

structure Field where
  id : String
  title : String
  type : FieldType
  value : String
deriving DecidableEq

structure VaultItem where
  id : String
  title : String
  category : Category
  vaultId : String
  tags : List String
  fields : List Field
  state : ItemState
  updatedAt : Option Timestamp
deriving DecidableEq

/-- What a listing tells of an item: all but its fields. -/
structure Overview where
  id : String
  title : String
  category : Category
  vaultId : String
  tags : List String
  state : ItemState
  updatedAt : Option Timestamp
deriving DecidableEq

structure NewItem where
  category : Category
  vaultId : String
  title : String
  fields : List Field
  tags : List String
deriving DecidableEq

structure ListFilter where
  active : Bool
  archived : Bool
deriving DecidableEq

namespace Category

def all : List Category := [.apiCredential, .login, .password, .secureNote, .custom, .unsupported]

def name : Category → String
  | .apiCredential => "API_CREDENTIAL"
  | .login => "LOGIN"
  | .password => "PASSWORD"
  | .secureNote => "SECURE_NOTE"
  | .custom => "CUSTOM"
  | .unsupported => "UNSUPPORTED"

def ofName (s : String) : Category := (all.find? (·.name == s)).getD .unsupported

def shown : Category → String
  | .apiCredential => "ApiCredentials"
  | .login => "Login"
  | .password => "Password"
  | .secureNote => "SecureNote"
  | .custom => "Custom"
  | .unsupported => "Unsupported"

end Category

namespace FieldType

def all : List FieldType := [.concealed, .text, .email, .url, .oneTimePassword, .unknown]

def name : FieldType → String
  | .concealed => "CONCEALED"
  | .text => "STRING"
  | .email => "EMAIL"
  | .url => "URL"
  | .oneTimePassword => "OTP"
  | .unknown => "UNKNOWN"

def ofName (s : String) : FieldType := (all.find? (·.name == s)).getD .unknown

def shown : FieldType → String
  | .concealed => "Concealed"
  | .text => "Text"
  | .email => "Email"
  | .url => "Url"
  | .oneTimePassword => "Totp"
  | .unknown => "Unknown"

end FieldType

namespace ItemState

def all : List ItemState := [.active, .archived, .deleted, .unknown]

def name : ItemState → String
  | .active => "ACTIVE"
  | .archived => "ARCHIVED"
  | .deleted => "DELETED"
  | .unknown => "UNKNOWN"

def ofName (s : String) : ItemState := (all.find? (·.name == s)).getD .unknown

def shown : ItemState → String
  | .active => "Active"
  | .archived => "Archived"
  | .deleted => "Deleted"
  | .unknown => "Unknown"

end ItemState

def VaultItem.overview (item : VaultItem) : Overview :=
  { item with }

namespace ListFilter

def activeOnly : ListFilter := ⟨true, false⟩

def accepts (f : ListFilter) : ItemState → Bool
  | .active => f.active
  | .archived => f.archived
  | .deleted | .unknown => false

end ListFilter

end VaultRing
