import PageFlow.Json
import PageFlow.Text.Blank
import PageFlow.Text.Case

/-!
# Flow templates

The flows that a new flow file can start from. A template is a document; its
name and its base address can be replaced.
-/

namespace PageFlow

open PageFlow.Text

/-- A template: the word it is asked for by, what it is for, and the members of
its document. -/
structure Template where
  key : String
  purpose : String
  members : List (String × Json)

namespace Template

def step (tag value : String) : Json :=
  .object [(tag, .text value)]

def typing (selector text : String) : Json :=
  .object [("type", .text selector), ("text", .text text)]

/-- A step that waits for at most ten seconds. -/
def longWait (selector : String) : Json :=
  .object [("waitFor", .text selector), ("timeout", .int 10000)]

/-- A step that looks for a text. -/
def verification (selector text : String) : Json :=
  .object [("verify", .text selector), ("contains", .text text)]

def flowMembers (name : String) (steps : List Json) : List (String × Json) :=
  [("name", .text name), ("baseUrl", .text "https://example.com"),
    ("steps", .array steps)]

/-- Registration of a user. -/
def signup : Template where
  key := "signup"
  purpose := "User registration flow"
  members := flowMembers "Signup Flow" [
    step "goto" "/",
    step "click" "text=Sign Up",
    step "waitFor" "#email",
    typing "#email" "test@example.com",
    typing "#password" "SecurePass123!",
    typing "#confirm-password" "SecurePass123!",
    step "click" "button[type=submit]",
    longWait ".dashboard",
    step "screenshot" "signup-complete",
    verification "h1" "Welcome"]

/-- Authentication of a user. -/
def login : Template where
  key := "login"
  purpose := "User authentication flow"
  members := flowMembers "Login Flow" [
    step "goto" "/login",
    step "waitFor" "#email",
    typing "#email" "user@example.com",
    typing "#password" "password123",
    step "click" "button[type=submit]",
    longWait ".dashboard",
    step "screenshot" "login-complete",
    verification "h1" "Dashboard"]

/-- Payment of a purchase. -/
def checkout : Template where
  key := "checkout"
  purpose := "Payment/checkout flow (Stripe)"
  members := flowMembers "Checkout Flow" [
    step "goto" "/products",
    step "click" ".product-card:first-child button",
    step "waitFor" ".cart-badge",
    step "click" "text=Checkout",
    longWait "#card-element",
    step "screenshot" "checkout-page",
    typing "#email" "customer@example.com",
    typing "#name" "Test Customer",
    step "screenshot" "checkout-filled"]

/-- All templates in the order of their listing. -/
def all : List Template :=
  [signup, login, checkout]

/-- Replaces a member unless the new text is missing or empty. -/
def override (members : List (String × Json)) (name : String)
    (text : Option String) : List (String × Json) :=
  match text with
  | none => members
  | some text =>
      if text.isEmpty then members
        else Json.insertMember members name (.text text)

/-- The document of the template with a key, its name and base address
replaced. -/
def find? (key : String) (flowName baseUrl : Option String) : Option Json :=
  (all.find? (·.key == key)).map fun template =>
    .object (override (override template.members "name" flowName)
      "baseUrl" baseUrl)

/-- The file name for a flow: its name in lower case, hyphens in place of
blanks. -/
def fileName (name : String) : String :=
  String.ofList (foldBlanks '-' (lowerChars (trimChars name.toList))) ++ ".json"

end Template

end PageFlow
