import FormLogic.Json.Basic

/-!
# A registration form

The configuration that stands in where none is given.
-/

namespace FormLogic.Registration

/-- The value of a field in a rule. -/
def valueOf (name : String) : Json := .ofEntries [("var", .text name)]

def account : Json :=
  .ofEntries
    [("type", .text "container"), ("variant", .text "section"),
      ("meta", .ofEntries [("title", .text "Account")]),
      ("children",
        .array
          [.ofEntries
              [("type", .text "text"), ("name", .text "name"), ("label", .text "Full name"),
                ("validation", .ofEntries [("required", .bool true), ("minLength", .ofNat 2)])],
            .ofEntries
              [("type", .text "checkbox"), ("name", .text "hasPhone"),
                ("label", .text "I have a phone")],
            .ofEntries
              [("type", .text "tel"), ("name", .text "phone"), ("label", .text "Phone"),
                ("visible", valueOf "hasPhone"),
                ("validation",
                  .ofEntries
                    [("message", .text "Phone must have 10 digits"),
                      ("condition",
                        .ofEntries
                          [("or",
                            .array
                              [.ofEntries [("!", valueOf "hasPhone")],
                                .ofEntries
                                  [("and",
                                    .array
                                      [valueOf "hasPhone",
                                        .ofEntries
                                          [("regex_match",
                                            .array
                                              [.text "^[0-9]\x7b10\x7d$",
                                                valueOf "phone"])]])]])])])]])]

def address : Json :=
  .ofEntries
    [("type", .text "container"), ("variant", .text "section"),
      ("children",
        .array
          [.ofEntries
              [("type", .text "select"), ("name", .text "address.country"),
                ("label", .text "Country"),
                ("options",
                  .array
                    [.ofEntries [("value", .text "ua"), ("label", .text "Ukraine")],
                      .ofEntries [("value", .text "us"), ("label", .text "United States")]]),
                ("validation", .ofEntries [("required", .bool true)])],
            .ofEntries
              [("type", .text "select"), ("name", .text "address.city"), ("label", .text "City"),
                ("dependsOn", .text "address.country"), ("optionsProvider", .text "cities")],
            .ofEntries
              [("type", .text "text"), ("name", .text "address.district"),
                ("label", .text "District"), ("dependsOn", .text "address.city"),
                ("defaultValue", .text "center")]])]

def advanced : Json :=
  .ofEntries
    [("type", .text "container"), ("variant", .text "advanced"),
      ("visible", .ofEntries [("==", .array [valueOf "mode", .text "expert"])]),
      ("children",
        .array
          [.ofEntries
              [("type", .text "rich-text"), ("name", .text "notes"), ("label", .text "Notes")],
            .ofEntries
              [("type", .text "container"),
                ("children",
                  .array
                    [.ofEntries
                      [("type", .text "email"), ("name", .text "backupEmail"),
                        ("label", .text "Backup email"), ("visible", .bool true),
                        ("validation", .ofEntries [("required", .bool true)])]])]])]

def contacts : Json :=
  .ofEntries
    [("type", .text "array"), ("name", .text "contacts"), ("label", .text "Contacts"),
      ("minItems", .ofNat 1), ("maxItems", .ofNat 3),
      ("itemFields",
        .array
          [.ofEntries
              [("type", .text "text"), ("name", .text "label"),
                ("validation", .ofEntries [("required", .bool true)])],
            .ofEntries
              [("type", .text "tel"), ("name", .text "number"),
                ("validation", .ofEntries [("pattern", .text "^[0-9]+$")])]])]

def avatar : Json :=
  .ofEntries
    [("type", .text "custom"), ("name", .text "avatar"), ("component", .text "AvatarUpload"),
      ("componentProps", .ofEntries [("maxSizeKb", .ofNat 512)])]

/-- The configuration of the registration form. -/
def configuration : Json :=
  .ofEntries
    [("elements", .array [account, address, advanced, contacts, avatar]),
      ("options", .ofEntries [("invisibleFieldValidation", .text "skip")])]

end FormLogic.Registration
