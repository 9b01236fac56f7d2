import ToothVoca.Library.CString
import ToothVoca.Library.RawMemory
import ToothVoca.Library.Transition
import ToothVoca.Library.LineBreak
import ToothVoca.Library.Semaphore
import ToothVoca.Library.Mailbox
import ToothVoca.Network.ReqWord
import ToothVoca.Network.WordPair
import ToothVoca.Tasks.MainTask
import ToothVoca.Tasks.TimerTask
import ToothVoca.Library.Signal
import ToothVoca.Tasks.Device
import ToothVoca.Tasks.PerTouch
import ToothVoca.Tasks.Switching
import ToothVoca.Tasks.Restarting
import ToothVoca.Library.Lifetime
import ToothVoca.Tasks.AudioStream
import ToothVoca.Library.Utf8
import ToothVoca.Display.ParserChar
import ToothVoca.Display.Font
import ToothVoca.Display.DrawString
import ToothVoca.Display.Utf8Text
import ToothVoca.Display.ThreeByteForms
import ToothVoca.Display.Repertoire
import ToothVoca.Network.SentenceCut
import ToothVoca.Display.FontImage
import ToothVoca.Display.DrawText
import ToothVoca.Display.IndexBounds
import ToothVoca.Display.Layout
import ToothVoca.Display.Placement
import ToothVoca.Tasks.ScreenLayout
import ToothVoca.Display.Refresh
import ToothVoca.Display.RefreshProgress
import ToothVoca.Tasks.UpdateScreen
import ToothVoca.Library.Raster
import ToothVoca.Display.Controller
import ToothVoca.Display.Panel
import ToothVoca.Display.FillBackground
import ToothVoca.Display.Screen
import ToothVoca.Display.SharedPanel
import ToothVoca.Tasks.TimeRedraw
import ToothVoca.Tasks.ShownPair
import ToothVoca.Tasks.StartUp
import ToothVoca.Network.SocketLife
import ToothVoca.Tasks.Rounds
