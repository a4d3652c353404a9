import PageScript.Json.Value
import PageScript.Key

/-!
# Commands for the browser

What the browser is told to do, and how each command is put on the wire: a method and its
parameters. `Command.method` and `Command.params` are the whole of the wire format; the rest of the
library speaks of commands only.
-/

namespace PageScript.Chrome

/-- A command for the browser. -/
inductive Command where
  /-- Save downloads to a directory without asking. -/
  | allowDownloads (directory : String)
  | createTarget (url : String)
  /-- Tell what happens in the life of each document. -/
  | reportLifecycle
  /-- Tell what goes over the network. -/
  | reportNetwork
  | ignoreCertificates
  /-- Show the page in a size and at a scale. -/
  | setViewport (width height : Nat) (scale : Float)
  /-- Open an address in a frame. -/
  | navigate (url frame : String)
  | reload
  /-- Evaluate an expression and give its value, waiting for it if it is a promise. -/
  | evaluate (expression : String)
  /-- Move the mouse to a point. -/
  | moveMouse (x y : Float)
  /-- Press the left mouse button at a point, for the so manieth time in a row. -/
  | pressMouse (x y : Float) (count : Nat)
  | releaseMouse (x y : Float) (count : Nat)
  | keyDown (key : Key)
  | keyUp (key : Key)
  /-- Insert a text where the focus is. -/
  | insertText (text : String)
  /-- Send pictures of the page, no larger than given. -/
  | startScreencast (width height : Nat)
  | stopScreencast
  | acknowledge (session : Int)
  /-- Give the body of the response to a request. -/
  | responseBody (request : String)
  | close
  deriving DecidableEq, Repr

namespace Command

/-- The method of a command. -/
def method : Command → String
  | .allowDownloads _ => "Browser.setDownloadBehavior"
  | .createTarget _ => "Target.createTarget"
  | .reportLifecycle => "Page.setLifecycleEventsEnabled"
  | .reportNetwork => "Network.enable"
  | .ignoreCertificates => "Security.setIgnoreCertificateErrors"
  | .setViewport .. => "Emulation.setDeviceMetricsOverride"
  | .navigate .. => "Page.navigate"
  | .reload => "Page.reload"
  | .evaluate _ => "Runtime.evaluate"
  | .moveMouse .. | .pressMouse .. | .releaseMouse .. => "Input.dispatchMouseEvent"
  | .keyDown _ | .keyUp _ => "Input.dispatchKeyEvent"
  | .insertText _ => "Input.insertText"
  | .startScreencast .. => "Page.startScreencast"
  | .stopScreencast => "Page.stopScreencast"
  | .acknowledge _ => "Page.screencastFrameAck"
  | .responseBody _ => "Network.getResponseBody"
  | .close => "Browser.close"

/-- The quality of pictures, in percent. -/
def pictureQuality : Nat := 80

/-- A mouse event. -/
def mouseEvent (kind : String) (x y : Float) (pressed : List (String × Json)) :
    List (String × Json) :=
  [("type", .string kind), ("x", .ofFloat x), ("y", .ofFloat y)] ++ pressed

/-- The button of a mouse event, with how often it has been pressed in a row. -/
def leftButton (count : Nat) : List (String × Json) :=
  [("button", .string "left"), ("clickCount", .ofNat count)]

/-- A key event. -/
def keyEvent (kind : String) (key : Key) (text : List (String × Json)) : List (String × Json) :=
  [("type", .string kind), ("key", .string key.key), ("code", .string key.code),
   ("windowsVirtualKeyCode", .ofNat key.keyCode),
   ("nativeVirtualKeyCode", .ofNat key.keyCode)] ++ text

/-- The named parameters of a command. -/
def fields : Command → List (String × Json)
  | .allowDownloads directory =>
    [("behavior", .string "allow"), ("downloadPath", .string directory)]
  | .createTarget url => [("url", .string url)]
  | .reportLifecycle => [("enabled", .bool true)]
  | .reportNetwork => []
  | .ignoreCertificates => [("ignore", .bool true)]
  | .setViewport width height scale =>
    [("width", .ofNat width), ("height", .ofNat height), ("deviceScaleFactor", .ofFloat scale),
     ("mobile", .bool false)]
  | .navigate url frame => [("url", .string url), ("frameId", .string frame)]
  | .reload => []
  | .evaluate expression =>
    [("expression", .string expression), ("awaitPromise", .bool true),
     ("returnByValue", .bool true)]
  | .moveMouse x y => mouseEvent "mouseMoved" x y []
  | .pressMouse x y count => mouseEvent "mousePressed" x y (leftButton count)
  | .releaseMouse x y count => mouseEvent "mouseReleased" x y (leftButton count)
  | .keyDown key =>
    keyEvent "keyDown" key (match key.text with
      | some text => [("text", .string text)]
      | none => [])
  | .keyUp key => keyEvent "keyUp" key []
  | .insertText text => [("text", .string text)]
  | .startScreencast width height =>
    [("format", .string "jpeg"), ("quality", .ofNat pictureQuality), ("maxWidth", .ofNat width),
     ("maxHeight", .ofNat height)]
  | .stopScreencast => []
  | .acknowledge session => [("sessionId", .ofInt session)]
  | .responseBody request => [("requestId", .string request)]
  | .close => []

/-- The parameters of a command. -/
def params (c : Command) : Json :=
  .ofFields c.fields

end Command

end PageScript.Chrome
