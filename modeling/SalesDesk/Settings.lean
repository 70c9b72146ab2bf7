import SalesDesk.Alert
import SalesDesk.Generation.Reply
import SalesDesk.Hours
import SalesDesk.Json.Reader
import SalesDesk.Quota.Usage
import SalesDesk.Validation

/-!
# Settings

The settings of a desk come from values given by name and from the variables of the environment. A
given value wins over a variable, and a variable over the default. Names of variables are not
sensitive to case, nor are those of values, and names that mean nothing here are ignored. The time
zones do not come from values: they are those of the place where the desk runs.
-/

namespace SalesDesk

structure Settings where
  databaseUrl : String := "sqlite:///./sellify.db"
  debug : Bool := false
  logLevel : String := "INFO"
  limits : Quota.Limits := {}
  defaultTenant : String := "default"
  hours : Hours := {}
  forbiddenWords : List String := Generation.defaultForbidden
  maxGeneratedLength : Int := Generation.defaultMaxLength
  fallback : String := Generation.defaultFallback
  legalKeywords : List String := Alert.defaultLegal
  threatKeywords : List String := Alert.defaultThreats
  angerKeywords : List String := Alert.defaultAnger
  sensitiveWords : List String := []
  maxMisunderstandings : Int := 3
  alertBotToken : Option String := none
  alertChatId : Option String := none
  apiKey : Option String := none
  generationModel : String := Generation.defaultModel
  generationTimeout : Binary64 := Generation.defaultTimeout
  schedulerEnabled : Bool := true
  /-- The time zones that are known where the desk runs. -/
  zones : Zone.Database := Zone.database
  deriving Repr, Inhabited

inductive SettingsError where
  /-- A variable that has to hold a list does not hold JSON. -/
  | unreadableList (field : String)
  /-- A variable holds JSON that is nested too deeply. -/
  | tooDeep
  /-- A variable holds half of a character, which no text has. -/
  | halfCharacter (field : String)
  | invalid (issues : List Validation.Issue)
  deriving Repr

def SettingsError.message : SettingsError → String
  | unreadableList field =>
    "error parsing value for field \"" ++ field ++ "\" from source \"EnvSettingsSource\""
  | tooDeep => "maximum recursion depth exceeded"
  | halfCharacter field => "half of a character in field \"" ++ field ++ "\""
  | invalid _ => "invalid settings"

namespace Settings

open Validation

/-- Reads settings from values by name, for a place with certain time zones. -/
def ofMembers (zones : Zone.Database) (m : Table Json) : Checked Settings :=
  let d : Settings := {}
  let words (name : String) (default : List String) := fieldOr m name (Rule.list Rule.text) default
  let text (name default : String) := fieldOr m name Rule.text default
  let integer (name : String) (default : Int) := fieldOr m name Rule.integer default
  let flag (name : String) (default : Bool) := fieldOr m name Rule.flag default
  let limits := Quota.Limits.mk <$> integer "messages_per_day" d.limits.messagesPerDay
    <*> integer "messages_per_week" d.limits.messagesPerWeek
    <*> integer "images_per_day" d.limits.imagesPerDay
    <*> integer "videos_per_week" d.limits.videosPerWeek
  let hours := Hours.mk <$> text "active_hours_start" d.hours.start
    <*> text "active_hours_end" d.hours.stop
    <*> text "active_hours_timezone" d.hours.zone
  Settings.mk <$> text "database_url" d.databaseUrl
    <*> flag "debug" d.debug
    <*> text "log_level" d.logLevel
    <*> limits
    <*> text "default_tenant_id" d.defaultTenant
    <*> hours
    <*> words "forbidden_words" d.forbiddenWords
    <*> integer "max_generated_length" d.maxGeneratedLength
    <*> text "fallback_message" d.fallback
    <*> words "legal_keywords" d.legalKeywords
    <*> words "threat_keywords" d.threatKeywords
    <*> words "anger_keywords" d.angerKeywords
    <*> words "sensitive_words" d.sensitiveWords
    <*> integer "max_misunderstandings" d.maxMisunderstandings
    <*> optionalText m "alert_bot_token"
    <*> optionalText m "alert_chat_id"
    <*> optionalText m "openai_api_key"
    <*> text "generation_model" d.generationModel
    <*> fieldOr m "generation_timeout_seconds" Rule.number d.generationTimeout
    <*> flag "quota_reset_scheduler_enabled" d.schedulerEnabled
    <*> pure zones

def listFields : List String :=
  ["forbidden_words", "legal_keywords", "threat_keywords", "anger_keywords", "sensitive_words"]

def fields : List String :=
  ["database_url", "debug", "log_level", "messages_per_day", "messages_per_week", "images_per_day",
    "videos_per_week", "default_tenant_id", "active_hours_start", "active_hours_end",
    "active_hours_timezone", "forbidden_words", "max_generated_length", "fallback_message",
    "legal_keywords", "threat_keywords", "anger_keywords", "sensitive_words",
    "max_misunderstandings", "alert_bot_token", "alert_chat_id", "openai_api_key",
    "generation_model", "generation_timeout_seconds", "quota_reset_scheduler_enabled"]

/-- The values of the variables of an environment, by the fields that they are for. Lists are
written in JSON, where null stands for the default. -/
def ofVariables (environment : Table String) : Except SettingsError (Table Json) := do
  let known : Table String :=
    environment.foldl (fun t v => t.put (Text.lower v.1) v.2) []
  let values ← fields.mapM fun name => do
    match known.find? name with
    | none => return []
    | some value =>
      if listFields.contains name then
        match Json.readBounded value.toList with
        | .error .tooDeep => throw .tooDeep
        | .error .halfCharacter => throw (.halfCharacter name)
        | .error _ => throw (.unreadableList name)
        | .ok .null => return []
        | .ok v => return [(name, v)]
      else return [(name, Json.str value)]
  return values.flatten

/-- The values that are given for fields; of one field given in several spellings the last one
counts. -/
def ofGiven (given : Table Json) : Table Json :=
  Table.ofEntries (given.map fun v => (Text.lower v.1, v.2))

/-- The settings for given values and an environment. -/
def make (given : Table Json) (environment : Table String)
    (zones : Zone.Database := Zone.database) : Except SettingsError Settings := do
  match ofMembers zones (Table.merge (← ofVariables environment) (ofGiven given)) with
  | .valid s => return s
  | .invalid issues => throw (.invalid issues)

def toJson (s : Settings) : Json :=
  let words (ws : List String) : Json := .arr (ws.map .str)
  .obj [("database_url", .str s.databaseUrl), ("debug", .bool s.debug),
    ("log_level", .str s.logLevel), ("messages_per_day", .int s.limits.messagesPerDay),
    ("messages_per_week", .int s.limits.messagesPerWeek),
    ("images_per_day", .int s.limits.imagesPerDay),
    ("videos_per_week", .int s.limits.videosPerWeek), ("default_tenant_id", .str s.defaultTenant),
    ("active_hours_start", .str s.hours.start), ("active_hours_end", .str s.hours.stop),
    ("active_hours_timezone", .str s.hours.zone), ("forbidden_words", words s.forbiddenWords),
    ("max_generated_length", .int s.maxGeneratedLength), ("fallback_message", .str s.fallback),
    ("legal_keywords", words s.legalKeywords), ("threat_keywords", words s.threatKeywords),
    ("anger_keywords", words s.angerKeywords), ("sensitive_words", words s.sensitiveWords),
    ("max_misunderstandings", .int s.maxMisunderstandings),
    ("alert_bot_token", .ofOption .str s.alertBotToken),
    ("alert_chat_id", .ofOption .str s.alertChatId), ("openai_api_key", .ofOption .str s.apiKey),
    ("generation_model", .str s.generationModel),
    ("generation_timeout_seconds", .float s.generationTimeout),
    ("quota_reset_scheduler_enabled", .bool s.schedulerEnabled)]

def isOpen (s : Settings) (t : Timestamp) : Except HoursError Bool := s.hours.isOpen s.zones t

def guard (s : Settings) : Generation.Guard :=
  { forbidden := s.forbiddenWords, maxLength := s.maxGeneratedLength, fallback := s.fallback }

def detector (s : Settings) : Alert.Detector :=
  { legal := s.legalKeywords, threats := s.threatKeywords, anger := s.angerKeywords
    sensitive := s.sensitiveWords, maxMisunderstandings := s.maxMisunderstandings }

def channel (s : Settings) : Alert.Channel := { botToken := s.alertBotToken, chatId := s.alertChatId }

/-- The completion service, if there is a key for it. -/
def service? (s : Settings) : Option Generation.Generator :=
  match s.apiKey with
  | none => none
  | some key =>
    if key = "" then none
    else some (.service { apiKey := key, model := s.generationModel, timeout := s.generationTimeout })

end Settings

end SalesDesk
