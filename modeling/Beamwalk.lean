import Beamwalk.Main
import Beamwalk.Proofs.Editor.Listing
import Beamwalk.Proofs.Editor.Prompts
import Beamwalk.Proofs.Editor.Refusal
import Beamwalk.Proofs.Editor.Runnable
import Beamwalk.Proofs.Editor.Selection
import Beamwalk.Proofs.Grid.Stored
import Beamwalk.Proofs.Hazard.Switching
import Beamwalk.Proofs.Keyboard.Binding
import Beamwalk.Proofs.Level.Drawing
import Beamwalk.Proofs.Picture.Layers
import Beamwalk.Proofs.Program.Edits
import Beamwalk.Proofs.Run.Cancellation
import Beamwalk.Proofs.Run.Coins
import Beamwalk.Proofs.Run.Foretold
import Beamwalk.Proofs.Run.Log
import Beamwalk.Proofs.Run.Mirror
import Beamwalk.Proofs.Run.Narration
import Beamwalk.Proofs.Run.Replay
import Beamwalk.Proofs.Run.Resumption
import Beamwalk.Proofs.Run.Sequence
import Beamwalk.Proofs.Run.Termination
import Beamwalk.Proofs.Run.Truth
import Beamwalk.Proofs.Storage.Documents
import Beamwalk.Proofs.Screen.MenuItem
import Beamwalk.Proofs.Editor.Layout
import Beamwalk.Proofs.Editor.MenuBar
import Beamwalk.Proofs.Player.Fit
import Beamwalk.Proofs.Editor.Regions
