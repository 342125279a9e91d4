import SpriteScene.Main
import SpriteScene.Proofs.Document.Reopen
import SpriteScene.Proofs.Module.Faithful
import SpriteScene.Proofs.Module.Spelling
import SpriteScene.Proofs.Document.Edit
import SpriteScene.Proofs.Document.Session
import SpriteScene.Proofs.Command.Run
import SpriteScene.Proofs.Command.Memory
import SpriteScene.Proofs.Report
import SpriteScene.Proofs.Scene.Tidy
import SpriteScene.Proofs.Command.Effect
import SpriteScene.Proofs.Command.Tidy
import SpriteScene.Proofs.Command.Footprint
import SpriteScene.Proofs.Scene.History
import SpriteScene.Proofs.Module.Parts
import SpriteScene.Proofs.Module.Append
import SpriteScene.Proofs.Module.Local
import SpriteScene.Proofs.Scene.Issues
import SpriteScene.Proofs.Script.Grammar
import SpriteScene.Proofs.Module.Globals
import SpriteScene.Proofs.Scene.Rearrange
import SpriteScene.Proofs.Module.FirstFault
import SpriteScene.Proofs.Scene.IssueList
import SpriteScene.Proofs.Script.Refusal
import SpriteScene.Proofs.Module.Coordinate
import SpriteScene.Proofs.Scene.Target
import SpriteScene.Proofs.Scene.Commute
import SpriteScene.Proofs.Command.Compile
import SpriteScene.Proofs.Preview.Source
import SpriteScene.Proofs.Preview.Hierarchy
import SpriteScene.Proofs.Script.Distinct
