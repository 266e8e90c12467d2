import EndpointStubs.EndpointModel
import EndpointStubs.Event
import EndpointStubs.Round

/-!
# Scanning a round

The declarations of a round are folded into a model, in order, and each leaves one note.
Controllers and GET routes change the model; everything else is noted and skipped.
-/

namespace EndpointStubs

namespace Declaration

/-- What a declaration adds to a model. -/
def addTo (d : Declaration) (m : EndpointModel) : EndpointModel :=
  match d.classify with
  | .controller marker => m.withController d.name marker.firstPath?
  | .route .get marker =>
    m.withRoute d.simpleName marker.firstPath? (d.declaredType.getD "")
  | .route .post _ | .unrecognized => m

def note (d : Declaration) : String :=
  match d.classify with
  | .controller marker | .route .get marker =>
    "Processing " ++ marker.kind.name ++ " annotation on " ++ d.name
  | .route .post marker => "Unknown annotation " ++ marker.kind.name ++ " on " ++ d.name
  | .unrecognized =>
    "Unknown annotation " ++ Text.joinStrings ", " (d.markers.map fun m => m.kind.name) ++
      " on " ++ d.name

/-- The events of scanning a declaration, its note as an event of level `level` included. -/
def scanEvents (level : Event.Level) (d : Declaration) : List Event :=
  (match d.classify with
    | .route .post _ =>
      [Event.mk .debug "stubgen::scan" "route verb has no stub support"
        [("verb", .shown Verb.post.name), ("name", .shown d.name)]]
    | _ => []) ++ [Event.note level d.note]

end Declaration

def scan (ds : List Declaration) : EndpointModel :=
  ds.foldl (fun m d => d.addTo m) {}

/-- One note per declaration. -/
def scanNotes (ds : List Declaration) : List String := ds.map Declaration.note

end EndpointStubs
