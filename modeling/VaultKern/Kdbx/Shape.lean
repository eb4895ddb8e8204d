import VaultKern.Kdbx.Nodes

/-! # The shape of a document

Before a document is read, its elements are checked: which children an element may have
and how often, and what text a field may hold. An error says where and which rule.
-/

namespace VaultKern.Kdbx

/-! ## Rules on one element -/

def ensureModel (condition : Bool) (location rule : String) : Except KdbxError Unit :=
  if condition then .ok () else .error (.invalidXmlModel location rule)

def onlyElementChildren (element : Element) (allowed : List String) : Bool :=
  element.elements.all fun child => child.name ∈ allowed

def childCount (element : Element) (name : String) : Nat := element.elements.countP fun child => child.name = name

def childMultiplicity (element : Element) (singletonNames requiredNames : List String) : Bool :=
  singletonNames.all (fun name => childCount element name ≤ 1)
    && requiredNames.all fun name => childCount element name = 1

def onlySingletons (element : Element) (allowed required : List String) : Bool :=
  onlyElementChildren element allowed && childMultiplicity element allowed required

def firstDuplicateChild (element : Element) (names : List String) : Option String :=
  names.find? fun name => 1 < childCount element name

def scalarElement (element : Element) : Bool := element.elements.isEmpty

def knownScalarChildren (element : Element) (knownNames containerNames : List String) : Bool :=
  element.elements.all fun child =>
    !(child.name ∈ knownNames && child.name ∉ containerNames) || scalarElement child

def typedChildren (element : Element) (names : List String) (validate : String → Bool) : Bool :=
  element.elements.all fun child =>
    child.name ∉ names || (scalarElement child && validate (child.getText.getD ""))

def boolAttributeIfPresent (element : Element) (name : String) : Bool :=
  element.attributes[name]?.all fun value => (parseBoolTextStrict value).isSome

/-! ## Texts a field may hold -/

def isStrictBool (value : String) : Bool := (parseBoolTextStrict value).isSome

def isNullableBool (value : String) : Bool := (parseNullableBoolStrict value).isSome

def isSigned (bits : Nat) (value : String) : Bool := (parseSigned bits (trimText value)).isSome

def isUnsigned (bound : Nat) (value : String) : Bool := (parseUnsigned bound (trimText value)).isSome

def isBlank (value : String) : Bool := (trimText value).isEmpty

def isRealUuid (value : String) : Bool :=
  match decodeUuid (trimText value) with
  | .ok id => !isNil id
  | .error _ => false

def isOptionalUuid (value : String) : Bool :=
  match parseOptionalUuid value with
  | .ok _ => true
  | .error _ => false

def isBase64 (value : String) : Bool := (Base64.decode (trimText value)).isSome

section Shapes

variable (rfc3339 : String → Option Int)

def isDatetimeI64 (value : String) : Bool := (parseDatetimeI64 rfc3339 value).isSome

def isDatetimeValue (value : String) : Bool := (parseDatetimeValue rfc3339 value).isSome

/-! ## Containers -/

def timesFields : List String :=
  ["CreationTime", "LastModificationTime", "LastAccessTime", "ExpiryTime", "Expires", "UsageCount", "LocationChanged"]

def validateTimesShape (times : Element) : Except KdbxError Unit := do
  ensureModel (onlySingletons times timesFields []) "Times" "unexpected or duplicate child"
  ensureModel (knownScalarChildren times timesFields []) "Times" "scalar field contains a child element"
  ensureModel (typedChildren times ["CreationTime", "LastModificationTime"] (isDatetimeValue rfc3339))
    "Times" "invalid required timestamp"
  ensureModel (typedChildren times ["LastAccessTime", "LocationChanged"] fun value =>
    isBlank value || isDatetimeValue rfc3339 value) "Times" "invalid optional timestamp"
  ensureModel (typedChildren times ["ExpiryTime"] fun value => isBlank value || isDatetimeI64 rfc3339 value)
    "Times/ExpiryTime" "invalid timestamp"
  ensureModel (typedChildren times ["Expires"] isStrictBool) "Times/Expires" "invalid boolean"
  ensureModel (typedChildren times ["UsageCount"] fun value => isBlank value || isUnsigned (2 ^ 64) value)
    "Times/UsageCount" "invalid unsigned integer"

def validateAssociationShape (association : Element) : Except KdbxError Unit := do
  ensureModel (onlySingletons association ["Window", "KeystrokeSequence"] [])
    "Entry/AutoType/Association" "unexpected or duplicate child"
  ensureModel (knownScalarChildren association ["Window", "KeystrokeSequence"] [])
    "Entry/AutoType/Association" "scalar field contains a child element"

def validateAutoTypeShape (autoType : Element) : Except KdbxError Unit := do
  ensureModel (childMultiplicity autoType ["Enabled", "DataTransferObfuscation", "DefaultSequence"] [])
    "Entry/AutoType" "duplicate singleton child"
  ensureModel (knownScalarChildren autoType ["Enabled", "DataTransferObfuscation", "DefaultSequence"] [])
    "Entry/AutoType" "scalar field contains a child element"
  autoType.elements.forM fun child =>
    if child.name ∈ ["Enabled", "DataTransferObfuscation", "DefaultSequence"] then .ok ()
    else if child.name = "Association" then validateAssociationShape child
    else .error (.invalidXmlModel "Entry/AutoType" "unexpected child element")
  ensureModel (typedChildren autoType ["Enabled"] isNullableBool) "Entry/AutoType/Enabled" "invalid nullable boolean"
  ensureModel (typedChildren autoType ["DataTransferObfuscation"] fun value => isBlank value || isSigned 32 value)
    "Entry/AutoType/DataTransferObfuscation" "invalid integer"

def validateItemShape (item : Element) : Except KdbxError Unit := do
  ensureModel (onlySingletons item ["Key", "Value", "LastModificationTime"] ["Key"])
    "CustomData/Item" "missing, duplicate, or unexpected child"
  ensureModel (knownScalarChildren item ["Key", "Value", "LastModificationTime"] [])
    "CustomData/Item" "scalar field contains a child element"
  ensureModel (typedChildren item ["LastModificationTime"] (isDatetimeI64 rfc3339))
    "CustomData/Item/LastModificationTime" "invalid timestamp"

def validateCustomDataShape (customData : Element) : Except KdbxError Unit := do
  ensureModel (onlyElementChildren customData ["Item"]) "CustomData" "unexpected child element"
  customData.elements.forM (validateItemShape rfc3339)

def validateIconShape (icon : Element) : Except KdbxError Unit := do
  ensureModel (onlySingletons icon ["UUID", "Data", "Name", "LastModificationTime"] ["UUID", "Data"])
    "Meta/CustomIcons/Icon" "missing, duplicate, or unexpected child"
  ensureModel (knownScalarChildren icon ["UUID", "Data", "Name", "LastModificationTime"] [])
    "Meta/CustomIcons/Icon" "scalar field contains a child element"
  ensureModel (typedChildren icon ["UUID"] isRealUuid) "Meta/CustomIcons/Icon/UUID" "invalid or nil UUID"
  ensureModel (typedChildren icon ["Data"] isBase64) "Meta/CustomIcons/Icon/Data" "invalid base64"
  ensureModel (typedChildren icon ["LastModificationTime"] (isDatetimeI64 rfc3339))
    "Meta/CustomIcons/Icon/LastModificationTime" "invalid timestamp"

def validateCustomIconsShape (customIcons : Element) : Except KdbxError Unit := do
  ensureModel (onlyElementChildren customIcons ["Icon"]) "Meta/CustomIcons" "unexpected child element"
  customIcons.elements.forM (validateIconShape rfc3339)

/-- The loop of `validate_legacy_binaries_shape` over the binaries, the ids so far at hand. -/
def validateLegacyBinaryShapes (ids : List String) : List Element → Except KdbxError Unit
  | [] => .ok ()
  | binary :: rest => do
      ensureModel (scalarElement binary) "Meta/Binaries/Binary" "contains a child element"
      match binary.attributes["ID"]? with
      | none => .error (.invalidXmlModel "Meta/Binaries/Binary@ID" "missing binary ID")
      | some id =>
          if id ∈ ids then .error (.invalidXmlModel "Meta/Binaries/Binary@ID" "duplicate binary ID")
          else validateLegacyBinaryShapes (id :: ids) rest

def validateLegacyBinariesShape (binaries : Element) : Except KdbxError Unit := do
  ensureModel (onlyElementChildren binaries ["Binary"]) "Meta/Binaries" "unexpected child element"
  validateLegacyBinaryShapes [] binaries.elements

def validateDeletedObjectShape (object : Element) : Except KdbxError Unit := do
  ensureModel (onlySingletons object ["UUID", "DeletionTime"] ["UUID", "DeletionTime"])
    "Root/DeletedObjects/DeletedObject" "missing, duplicate, or unexpected child"
  ensureModel (knownScalarChildren object ["UUID", "DeletionTime"] [])
    "Root/DeletedObjects/DeletedObject" "scalar field contains a child element"
  ensureModel (typedChildren object ["UUID"] isRealUuid)
    "Root/DeletedObjects/DeletedObject/UUID" "invalid or nil UUID"
  ensureModel (typedChildren object ["DeletionTime"] (isDatetimeI64 rfc3339))
    "Root/DeletedObjects/DeletedObject/DeletionTime" "invalid timestamp"

def validateDeletedObjectsShape (deleted : Element) : Except KdbxError Unit := do
  ensureModel (onlyElementChildren deleted ["DeletedObject"]) "Root/DeletedObjects" "unexpected child element"
  deleted.elements.forM (validateDeletedObjectShape rfc3339)

/-! ## Meta -/

def metaSingletons : List String :=
  ["Generator", "DatabaseName", "DatabaseNameChanged", "HeaderHash", "Binaries", "DatabaseDescription",
    "DatabaseDescriptionChanged", "DefaultUserName", "DefaultUserNameChanged", "MaintenanceHistoryDays", "Color",
    "MemoryProtection", "CustomIcons", "RecycleBinEnabled", "RecycleBinUUID", "RecycleBinChanged",
    "EntryTemplatesGroup", "EntryTemplatesGroupChanged", "MasterKeyChanged", "MasterKeyChangeRec",
    "MasterKeyChangeForce", "MasterKeyChangeForceOnce", "LastSelectedGroup", "LastTopVisibleGroup",
    "HistoryMaxItems", "HistoryMaxSize"]

def memoryProtectionFields : List String :=
  ["ProtectTitle", "ProtectUserName", "ProtectPassword", "ProtectURL", "ProtectNotes", "AutoEnableVisualHiding"]

def validateMetaChildShape (child : Element) : Except KdbxError Unit :=
  match child.name with
  | "MemoryProtection" => do
      ensureModel (onlySingletons child memoryProtectionFields [])
        "Meta/MemoryProtection" "unexpected or duplicate child"
      ensureModel (knownScalarChildren child memoryProtectionFields [])
        "Meta/MemoryProtection" "scalar field contains a child element"
  | "CustomIcons" => validateCustomIconsShape rfc3339 child
  | "Binaries" => validateLegacyBinariesShape child
  | "CustomData" => validateCustomDataShape rfc3339 child
  | _ => .ok ()

def validateMetaShape (metaElement : Element) : Except KdbxError Unit := do
  match firstDuplicateChild metaElement metaSingletons with
  | some name => .error (.invalidXmlModel ("Meta/" ++ name) "duplicate singleton child")
  | none => .ok ()
  ensureModel (childMultiplicity metaElement metaSingletons []) "Meta" "duplicate singleton child"
  ensureModel (knownScalarChildren metaElement metaSingletons ["MemoryProtection", "CustomIcons", "Binaries"])
    "Meta" "scalar field contains a child element"
  metaElement.elements.forM (validateMetaChildShape rfc3339)
  match metaElement.childOptional "MemoryProtection" with
  | some memoryProtection =>
      ensureModel (typedChildren memoryProtection memoryProtectionFields isStrictBool)
        "Meta/MemoryProtection" "invalid boolean field"
  | none => .ok ()
  ensureModel (typedChildren metaElement
    ["SettingsChanged", "DatabaseNameChanged", "DatabaseDescriptionChanged", "DefaultUserNameChanged",
      "RecycleBinChanged", "EntryTemplatesGroupChanged", "MasterKeyChanged"] (isDatetimeI64 rfc3339))
    "Meta" "invalid timestamp field"
  ensureModel (typedChildren metaElement ["RecycleBinEnabled", "MasterKeyChangeForceOnce"] isStrictBool)
    "Meta" "invalid boolean field"
  ensureModel (typedChildren metaElement ["MaintenanceHistoryDays", "HistoryMaxItems"] (isSigned 32))
    "Meta" "invalid 32-bit integer field"
  ensureModel (typedChildren metaElement ["MasterKeyChangeRec", "MasterKeyChangeForce", "HistoryMaxSize"] (isSigned 64))
    "Meta" "invalid 64-bit integer field"
  ensureModel (typedChildren metaElement
    ["RecycleBinUUID", "EntryTemplatesGroup", "LastSelectedGroup", "LastTopVisibleGroup"] isOptionalUuid)
    "Meta" "invalid UUID field"

/-! ## Entries -/

def entrySingletons : List String :=
  ["UUID", "IconID", "CustomIconUUID", "ForegroundColor", "BackgroundColor", "OverrideURL", "Tags",
    "PreviousParentGroup", "QualityCheck", "Times", "AutoType", "History"]

/-- The checks of one `String` child, the keys so far at hand. -/
def validateStringShape (stringKeys : List String) (string : Element) : Except KdbxError (List String) := do
  ensureModel (onlySingletons string ["Key", "Value"] ["Key", "Value"])
    "Entry/String" "missing, duplicate, or unexpected child"
  ensureModel (knownScalarChildren string ["Key", "Value"] []) "Entry/String" "Key or Value contains a child element"
  match childText string "Key" with
  | none => .error (.invalidXmlModel "Entry/String/Key" "missing field key")
  | some key =>
      if key ∈ stringKeys then .error (.invalidXmlModel "Entry/String" "duplicate field key")
      else
        match string.childOptional "Value" with
        | none => .error (.invalidXmlModel "Entry/String/Value" "missing value")
        | some value => do
            ensureModel (boolAttributeIfPresent value "Protected") "Entry/String/Value@Protected" "invalid boolean"
            .ok (key :: stringKeys)

/-- The checks of one `Binary` child, the names so far at hand. -/
def validateBinaryShape (binaryNames : List String) (binary : Element) : Except KdbxError (List String) := do
  ensureModel (onlySingletons binary ["Key", "Value"] ["Key", "Value"])
    "Entry/Binary" "missing, duplicate, or unexpected child"
  ensureModel (knownScalarChildren binary ["Key", "Value"] []) "Entry/Binary" "Key or Value contains a child element"
  match childText binary "Key" with
  | none => .error (.invalidXmlModel "Entry/Binary/Key" "missing name")
  | some name =>
      if name ∈ binaryNames then .error (.invalidXmlModel "Entry/Binary" "duplicate attachment name")
      else
        match binary.childOptional "Value" with
        | none => .error (.invalidXmlModel "Entry/Binary/Value" "missing value")
        | some value => do
            ensureModel (boolAttributeIfPresent value "Protected") "Entry/Binary/Value@Protected" "invalid boolean"
            ensureModel (boolAttributeIfPresent value "Compressed") "Entry/Binary/Value@Compressed" "invalid boolean"
            ensureModel (value.attributes["Ref"]?.all (isUnsigned (2 ^ 64)))
              "Entry/Binary/Value@Ref" "invalid attachment index"
            .ok (name :: binaryNames)

/-- What `validate_entry_shape` checks before its loop over the children. -/
def validateEntryFields (entry : Element) : Except KdbxError Unit := do
  ensureModel (childMultiplicity entry entrySingletons ["UUID"]) "Entry" "missing or duplicate singleton child"
  ensureModel (knownScalarChildren entry entrySingletons ["Times", "AutoType", "History"])
    "Entry" "scalar field contains a child element"

/-- What `validate_entry_shape` checks after its loop. -/
def validateEntryTexts (entry : Element) : Except KdbxError Unit := do
  ensureModel (typedChildren entry ["UUID"] isRealUuid) "Entry/UUID" "invalid or nil UUID"
  ensureModel (typedChildren entry ["IconID"] fun value => isBlank value || isUnsigned (2 ^ 32) value)
    "Entry/IconID" "invalid unsigned integer"
  ensureModel (typedChildren entry ["CustomIconUUID", "PreviousParentGroup"] isOptionalUuid)
    "Entry" "invalid optional UUID field"
  ensureModel (typedChildren entry ["QualityCheck"] isStrictBool) "Entry/QualityCheck" "invalid boolean"

mutual
def validateEntryShape : Element → Except KdbxError Unit
  | ⟨name, attributes, children⟩ => do
      validateEntryFields ⟨name, attributes, children⟩
      validateEntryChildren [] [] children
      validateEntryTexts ⟨name, attributes, children⟩

def validateEntryChildren (stringKeys binaryNames : List String) : List (XMLNode Element) → Except KdbxError Unit
  | [] => .ok ()
  | .element ⟨name, attributes, children⟩ :: rest =>
      match name with
      | "Times" => do
          validateTimesShape rfc3339 ⟨name, attributes, children⟩
          validateEntryChildren stringKeys binaryNames rest
      | "String" => do
          let stringKeys ← validateStringShape stringKeys ⟨name, attributes, children⟩
          validateEntryChildren stringKeys binaryNames rest
      | "Binary" => do
          let binaryNames ← validateBinaryShape binaryNames ⟨name, attributes, children⟩
          validateEntryChildren stringKeys binaryNames rest
      | "AutoType" => do
          validateAutoTypeShape ⟨name, attributes, children⟩
          validateEntryChildren stringKeys binaryNames rest
      | "CustomData" => do
          validateCustomDataShape rfc3339 ⟨name, attributes, children⟩
          validateEntryChildren stringKeys binaryNames rest
      | "History" => do
          ensureModel (onlyElementChildren ⟨name, attributes, children⟩ ["Entry"])
            "Entry/History" "unexpected child element"
          validateHistoryShape children
          validateEntryChildren stringKeys binaryNames rest
      | _ => validateEntryChildren stringKeys binaryNames rest
  | _ :: rest => validateEntryChildren stringKeys binaryNames rest

def validateHistoryShape : List (XMLNode Element) → Except KdbxError Unit
  | [] => .ok ()
  | .element entry :: rest => do
      validateEntryShape entry
      validateHistoryShape rest
  | _ :: rest => validateHistoryShape rest
end

/-! ## Groups -/

def groupSingletons : List String :=
  ["UUID", "Name", "Notes", "IconID", "CustomIconUUID", "Tags", "Times", "IsExpanded", "DefaultAutoTypeSequence",
    "EnableAutoType", "EnableSearching", "LastTopVisibleEntry", "PreviousParentGroup"]

/-- What `validate_group_shape` checks before its loop over the children. -/
def validateGroupFields (group : Element) : Except KdbxError Unit := do
  ensureModel (childMultiplicity group groupSingletons ["UUID"]) "Group" "missing or duplicate singleton child"
  ensureModel (knownScalarChildren group groupSingletons ["Times"]) "Group" "scalar field contains a child element"

/-- What `validate_group_shape` checks after its loop. -/
def validateGroupTexts (group : Element) : Except KdbxError Unit := do
  ensureModel (typedChildren group ["UUID"] isRealUuid) "Group/UUID" "invalid or nil UUID"
  ensureModel (typedChildren group ["IconID"] (isUnsigned (2 ^ 32))) "Group/IconID" "invalid unsigned integer"
  ensureModel (typedChildren group ["CustomIconUUID", "LastTopVisibleEntry", "PreviousParentGroup"] isOptionalUuid)
    "Group" "invalid optional UUID field"
  ensureModel (typedChildren group ["IsExpanded"] isStrictBool) "Group/IsExpanded" "invalid boolean"
  ensureModel (typedChildren group ["EnableAutoType", "EnableSearching"] isNullableBool)
    "Group" "invalid nullable boolean field"

mutual
def validateGroupShape : Element → Except KdbxError Unit
  | ⟨name, attributes, children⟩ => do
      validateGroupFields ⟨name, attributes, children⟩
      validateGroupChildren children
      validateGroupTexts ⟨name, attributes, children⟩

def validateGroupChildren : List (XMLNode Element) → Except KdbxError Unit
  | [] => .ok ()
  | .element child :: rest => do
      match child.name with
      | "Times" => validateTimesShape rfc3339 child
      | "CustomData" => validateCustomDataShape rfc3339 child
      | "Entry" => validateEntryShape rfc3339 child
      | "Group" => validateGroupShape child
      | _ => .ok ()
      validateGroupChildren rest
  | _ :: rest => validateGroupChildren rest
end

/-! ## The document -/

def validateRootShape (root : Element) : Except KdbxError Unit := do
  ensureModel (childMultiplicity root ["Group", "DeletedObjects"] ["Group"])
    "Root" "missing or duplicate singleton child"
  match root.childOptional "Group" with
  | none => .error (.invalidXmlModel "Root/Group" "missing required child")
  | some group => validateGroupShape rfc3339 group
  match root.childOptional "DeletedObjects" with
  | some deleted => validateDeletedObjectsShape rfc3339 deleted
  | none => .ok ()

def validateXmlModelShape (document : Element) : Except KdbxError Unit := do
  ensureModel (document.name = "KeePassFile") "KeePassFile" "unexpected document element"
  ensureModel (onlyElementChildren document ["Meta", "Root"]) "KeePassFile" "unexpected child element"
  ensureModel (childMultiplicity document ["Meta", "Root"] ["Meta", "Root"])
    "KeePassFile" "missing or duplicate required child"
  match document.childOptional "Meta", document.childOptional "Root" with
  | none, _ => .error (.invalidXmlModel "KeePassFile/Meta" "missing required child")
  | _, none => .error (.invalidXmlModel "KeePassFile/Root" "missing required child")
  | some metaElement, some root => do
      validateMetaShape rfc3339 metaElement
      validateRootShape rfc3339 root

end Shapes

end VaultKern.Kdbx
