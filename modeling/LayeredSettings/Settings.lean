/-
LayeredSettings/Settings.lean

The settings of the index: what its document looks like, and what is read from
a document.

A document is a value in the normal form of `Settings.schema`.  Its layer data
is the document without what is unset, secrets included, and its changes are the
leaves of the layer data in which it differs from the initial document.
-/
import LayeredSettings.Path
import LayeredSettings.Schema

namespace LayeredSettings

/-- A document in the normal form of a schema. -/
abbrev Document := Value

namespace Settings

/-- The only version of the document that is read. -/
def supportedVersion : String := "2.0.0"

/-! ### Members -/

/-- A name that is the same in a document and in code. -/
def plainName (name : String) : Name := ⟨name, name⟩

/-- An option that is always set. -/
def setting (name : String) (kind : Kind) (initial : Value) : Name × Schema :=
  (plainName name, .option kind .required initial)

/-- An option of text. -/
def textSetting (name initial : String) : Name × Schema := setting name .text (.text initial)

/-- An option that holds an integer that is not negative. -/
def countSetting (name : String) (initial : Int) : Name × Schema :=
  setting name (.integer 0 none) (.integer initial)

/-- An option that holds the number of a port. -/
def portSetting (name : String) (initial : Int) : Name × Schema :=
  setting name (.integer 0 (some 65535)) (.integer initial)

/-- An option that is on or off, and off at first. -/
def flagSetting (name : String) : Name × Schema := setting name .flag (.boolean false)

/-- A path of a file that is unset at first. -/
def pathSetting (name : String) : Name × Schema :=
  (plainName name, .option .text .clearable .null)

/-- A section that is always there. -/
def group (name title : String) (members : List (Name × Schema)) : Name × Schema :=
  (plainName name, .group title false members)

/-- A section that is unset at first. -/
def optionalGroup (name title : String) (members : List (Name × Schema)) : Name × Schema :=
  (plainName name, .group title true members)

/-! ### Initial texts -/

/-- The warning of a public demo. -/
def demoWarning : String := "⚠️ Please be aware: This demo resets all data weekly."

/-- The terms of use. -/
def termsContent : String :=
  "# Usage Policies\n\n## Copyright\n\n" ++
  "Only upload content you are authorised to share. Content that infringes a\n" ++
  "third party's rights will be removed and the uploader may be banned.\n\n" ++
  "## Illegal content\n\n" ++
  "Uploading illegal content is forbidden and will be reported."

/-- What is agreed to on an upload. -/
def uploadAgreement : String :=
  "I confirm that the content I am uploading is authorized, " ++
  "and I have read and agree to the terms."

/-! ### Sections -/

/-- What a document is for. -/
def metadata : Name × Schema :=
  group "metadata" "Metadata"
    [setting "app" (.choice "App" ["torrust-index"]) (.text "torrust-index"),
     setting "purpose" (.choice "Purpose" ["configuration"]) (.text "configuration"),
     textSetting "schema_version" supportedVersion]

/-- The thresholds of logging, the quietest first. -/
def thresholds : List String := ["off", "error", "warn", "info", "debug", "trace"]

/-- How much is logged. -/
def logging : Name × Schema :=
  group "logging" "Logging" [setting "threshold" (.choice "Threshold" thresholds) (.text "info")]

/-- The website of the index. -/
def website : Name × Schema :=
  group "website" "Website"
    [textSetting "name" "Torrust",
     optionalGroup "demo" "Demo" [textSetting "warning" demoWarning],
     group "terms" "Terms"
       [group "page" "TermsPage"
          [textSetting "title" "Usage Policies", textSetting "content" termsContent],
        group "upload" "TermsUpload" [textSetting "content_upload_agreement" uploadAgreement]]]

/-- The tracker behind the index. -/
def tracker : Name × Schema :=
  group "tracker" "Tracker"
    [setting "api_url" (.url true) (.text "http://localhost:1212/"),
     flagSetting "listed",
     flagSetting "private",
     setting "token" .secret (.text "MyAccessToken"),
     countSetting "token_valid_seconds" 7257600,
     setting "url" (.url false) (.text "udp://localhost:6969")]

/-- How the index is reached. -/
def net : Name × Schema :=
  group "net" "Network"
    [(plainName "base_url", .option (.url true) .optional .null),
     textSetting "bind_address" "0.0.0.0:3001",
     optionalGroup "tsl" "Tsl" [pathSetting "ssl_cert_path", pathSetting "ssl_key_path"]]

/-- How users are recognised. -/
def auth : Name × Schema :=
  group "auth" "Auth"
    [setting "user_claim_token_pepper" .secret (.text "MaxVerstappenWC2021"),
     group "password_constraints" "PasswordConstraints"
       [countSetting "min_password_length" 6, countSetting "max_password_length" 64]]

/-- Where data is stored. -/
def database : Name × Schema :=
  group "database" "Database" [textSetting "connect_url" "sqlite://data.db?mode=rwc"]

/-- How mail is sent. -/
def mail : Name × Schema :=
  group "mail" "Mail"
    [(⟨"from", "from_"⟩, .option .text .required (.text "example@email.com")),
     textSetting "reply_to" "noreply@email.com",
     group "smtp" "Smtp"
       [textSetting "server" "",
        portSetting "port" 25,
        group "credentials" "Credentials"
          [textSetting "username" "", setting "password" .secret (.text "")]]]

/-- The limits of the cache of images. -/
def imageCache : Name × Schema :=
  group "image_cache" "ImageCache"
    [countSetting "max_request_timeout_ms" 1000,
     countSetting "capacity" 128000000,
     countSetting "entry_size_limit" 4000000,
     countSetting "user_quota_period_seconds" 3600,
     countSetting "user_quota_bytes" 64000000]

/-- The sizes of pages. -/
def api : Name × Schema :=
  group "api" "Api"
    [countSetting "default_torrent_page_size" 10, countSetting "max_torrent_page_size" 30]

/-- What is asked of new users. -/
def registration : Name × Schema :=
  optionalGroup "registration" "Registration"
    [optionalGroup "email" "Email" [flagSetting "required", flagSetting "verified"]]

/-- The import of the tracker's statistics. -/
def statisticsImporter : Name × Schema :=
  group "tracker_statistics_importer" "TrackerStatisticsImporter"
    [textSetting "cron_job" "0 */10 * * * *",
     portSetting "port" 3002,
     countSetting "torrent_info_update_interval" 3600]

/-- The whole document. -/
def schema : Schema :=
  .group "Settings" false
    [metadata, logging, website, tracker, net, auth, database, mail, imageCache, api,
     registration, statisticsImporter]

/-! ### Documents -/

/-- The document before anything is set. -/
def initial : Document := schema.initial

/-- The document that a value describes. -/
def read (v : Value) : Except (List Issue) Document := schema.read v

/-- A document as a tree of what is set, secrets included. -/
def layerData (d : Document) : Table := (d.present.table?).getD []

/-- A document with its secrets masked. -/
def masked (d : Document) : Value := schema.masked d

/-- The leaves of the layer data, with the texts of their paths. -/
def leaves (d : Document) : List (String × Value) := Table.leaves "" (layerData d)

/-- The leaves in which a document differs from the initial one. -/
def changed (d : Document) : List (String × Value) :=
  (leaves d).filter fun e => (leaves initial).lookup e.1 != some e.2

/-! ### Single options -/

/-- The text at a path of a document, if there is a text. -/
def textAt? (d : Document) (path : Path) : Option String :=
  match d.find? path with
  | some (.text s) => some s
  | _ => none

/-- The text of an option that is always set. -/
def textAt (d : Document) (path : Path) : String := (textAt? d path).getD ""

/-- The version that a document declares. -/
def version (d : Document) : String := textAt d ["metadata", "schema_version"]

/-- The threshold of logging. -/
def threshold (d : Document) : String := textAt d ["logging", "threshold"]

/-- The name of the website. -/
def siteName (d : Document) : String := textAt d ["website", "name"]

/-- The public address of the index, if one is set. -/
def baseUrl? (d : Document) : Option String := textAt? d ["net", "base_url"]

/-- What a document is for, on one line. -/
def metadataLine (d : Document) : String :=
  "Metadata(app: " ++ textAt d ["metadata", "app"] ++ ", purpose: " ++
    textAt d ["metadata", "purpose"] ++ ", schema_version: " ++ version d ++ ")"

end Settings

end LayeredSettings
