/-!
Tables for the compatibility form of texts (Unicode 14). `decompositionRuns` lists full
compatibility decompositions: `a=x_y` maps `a` to the sequence `x y`, and `a-b=x` maps a run of
code points to the run that starts at `x`. `combiningClassRuns` gives the nonzero combining
classes, `compositionPairs` the pairs that compose to one character. All numbers are hexadecimal.
-/
namespace RepoAtlas.Text

def decompositionRuns : String := "
  a0=20 a8=20_308 aa=61 af=20_304 b2-b3=32 b4=20_301 b5=3bc b8=20_327 b9=31 ba=6f
  bc=31_2044_34 bd=31_2044_32 be=33_2044_34 c0=41_300 c1=41_301 c2=41_302 c3=41_303 c4=41_308
  c5=41_30a c7=43_327 c8=45_300 c9=45_301 ca=45_302 cb=45_308 cc=49_300 cd=49_301 ce=49_302
  cf=49_308 d1=4e_303 d2=4f_300 d3=4f_301 d4=4f_302 d5=4f_303 d6=4f_308 d9=55_300 da=55_301
  db=55_302 dc=55_308 dd=59_301 e0=61_300 e1=61_301 e2=61_302 e3=61_303 e4=61_308 e5=61_30a
  e7=63_327 e8=65_300 e9=65_301 ea=65_302 eb=65_308 ec=69_300 ed=69_301 ee=69_302 ef=69_308
  f1=6e_303 f2=6f_300 f3=6f_301 f4=6f_302 f5=6f_303 f6=6f_308 f9=75_300 fa=75_301 fb=75_302
  fc=75_308 fd=79_301 ff=79_308 100=41_304 101=61_304 102=41_306 103=61_306 104=41_328
  105=61_328 106=43_301 107=63_301 108=43_302 109=63_302 10a=43_307 10b=63_307 10c=43_30c
  10d=63_30c 10e=44_30c 10f=64_30c 112=45_304 113=65_304 114=45_306 115=65_306 116=45_307
  117=65_307 118=45_328 119=65_328 11a=45_30c 11b=65_30c 11c=47_302 11d=67_302 11e=47_306
  11f=67_306 120=47_307 121=67_307 122=47_327 123=67_327 124=48_302 125=68_302 128=49_303
  129=69_303 12a=49_304 12b=69_304 12c=49_306 12d=69_306 12e=49_328 12f=69_328 130=49_307
  132=49_4a 133=69_6a 134=4a_302 135=6a_302 136=4b_327 137=6b_327 139=4c_301 13a=6c_301
  13b=4c_327 13c=6c_327 13d=4c_30c 13e=6c_30c 13f=4c_b7 140=6c_b7 143=4e_301 144=6e_301
  145=4e_327 146=6e_327 147=4e_30c 148=6e_30c 149=2bc_6e 14c=4f_304 14d=6f_304 14e=4f_306
  14f=6f_306 150=4f_30b 151=6f_30b 154=52_301 155=72_301 156=52_327 157=72_327 158=52_30c
  159=72_30c 15a=53_301 15b=73_301 15c=53_302 15d=73_302 15e=53_327 15f=73_327 160=53_30c
  161=73_30c 162=54_327 163=74_327 164=54_30c 165=74_30c 168=55_303 169=75_303 16a=55_304
  16b=75_304 16c=55_306 16d=75_306 16e=55_30a 16f=75_30a 170=55_30b 171=75_30b 172=55_328
  173=75_328 174=57_302 175=77_302 176=59_302 177=79_302 178=59_308 179=5a_301 17a=7a_301
  17b=5a_307 17c=7a_307 17d=5a_30c 17e=7a_30c 17f=73 1a0=4f_31b 1a1=6f_31b 1af=55_31b
  1b0=75_31b 1c4=44_5a_30c 1c5=44_7a_30c 1c6=64_7a_30c 1c7=4c_4a 1c8=4c_6a 1c9=6c_6a 1ca=4e_4a
  1cb=4e_6a 1cc=6e_6a 1cd=41_30c 1ce=61_30c 1cf=49_30c 1d0=69_30c 1d1=4f_30c 1d2=6f_30c
  1d3=55_30c 1d4=75_30c 1d5=55_308_304 1d6=75_308_304 1d7=55_308_301 1d8=75_308_301
  1d9=55_308_30c 1da=75_308_30c 1db=55_308_300 1dc=75_308_300 1de=41_308_304 1df=61_308_304
  1e0=41_307_304 1e1=61_307_304 1e2=c6_304 1e3=e6_304 1e6=47_30c 1e7=67_30c 1e8=4b_30c
  1e9=6b_30c 1ea=4f_328 1eb=6f_328 1ec=4f_328_304 1ed=6f_328_304 1ee=1b7_30c 1ef=292_30c
  1f0=6a_30c 1f1=44_5a 1f2=44_7a 1f3=64_7a 1f4=47_301 1f5=67_301 1f8=4e_300 1f9=6e_300
  1fa=41_30a_301 1fb=61_30a_301 1fc=c6_301 1fd=e6_301 1fe=d8_301 1ff=f8_301 200=41_30f
  201=61_30f 202=41_311 203=61_311 204=45_30f 205=65_30f 206=45_311 207=65_311 208=49_30f
  209=69_30f 20a=49_311 20b=69_311 20c=4f_30f 20d=6f_30f 20e=4f_311 20f=6f_311 210=52_30f
  211=72_30f 212=52_311 213=72_311 214=55_30f 215=75_30f 216=55_311 217=75_311 218=53_326
  219=73_326 21a=54_326 21b=74_326 21e=48_30c 21f=68_30c 226=41_307 227=61_307 228=45_327
  229=65_327 22a=4f_308_304 22b=6f_308_304 22c=4f_303_304 22d=6f_303_304 22e=4f_307 22f=6f_307
  230=4f_307_304 231=6f_307_304 232=59_304 233=79_304 2b0=68 2b1=266 2b2=6a 2b3=72 2b4=279
  2b5=27b 2b6=281 2b7=77 2b8=79 2d8=20_306 2d9=20_307 2da=20_30a 2db=20_328 2dc=20_303
  2dd=20_30b 2e0=263 2e1=6c 2e2=73 2e3=78 2e4=295 340-341=300 343=313 344=308_301 374=2b9
  37a=20_345 37e=3b 384=20_301 385=20_308_301 386=391_301 387=b7 388=395_301 389=397_301
  38a=399_301 38c=39f_301 38e=3a5_301 38f=3a9_301 390=3b9_308_301 3aa=399_308 3ab=3a5_308
  3ac=3b1_301 3ad=3b5_301 3ae=3b7_301 3af=3b9_301 3b0=3c5_308_301 3ca=3b9_308 3cb=3c5_308
  3cc=3bf_301 3cd=3c5_301 3ce=3c9_301 3d0=3b2 3d1=3b8 3d2=3a5 3d3=3a5_301 3d4=3a5_308 3d5=3c6
  3d6=3c0 3f0=3ba 3f1-3f2=3c1 3f4=398 3f5=3b5 3f9=3a3 400=415_300 401=415_308 403=413_301
  407=406_308 40c=41a_301 40d=418_300 40e=423_306 419=418_306 439=438_306 450=435_300
  451=435_308 453=433_301 457=456_308 45c=43a_301 45d=438_300 45e=443_306 476=474_30f
  477=475_30f 4c1=416_306 4c2=436_306 4d0=410_306 4d1=430_306 4d2=410_308 4d3=430_308
  4d6=415_306 4d7=435_306 4da=4d8_308 4db=4d9_308 4dc=416_308 4dd=436_308 4de=417_308
  4df=437_308 4e2=418_304 4e3=438_304 4e4=418_308 4e5=438_308 4e6=41e_308 4e7=43e_308
  4ea=4e8_308 4eb=4e9_308 4ec=42d_308 4ed=44d_308 4ee=423_304 4ef=443_304 4f0=423_308
  4f1=443_308 4f2=423_30b 4f3=443_30b 4f4=427_308 4f5=447_308 4f8=42b_308 4f9=44b_308
  587=565_582 622=627_653 623=627_654 624=648_654 625=627_655 626=64a_654 675=627_674
  676=648_674 677=6c7_674 678=64a_674 6c0=6d5_654 6c2=6c1_654 6d3=6d2_654 929=928_93c
  931=930_93c 934=933_93c 958=915_93c 959=916_93c 95a=917_93c 95b=91c_93c 95c=921_93c
  95d=922_93c 95e=92b_93c 95f=92f_93c 9cb=9c7_9be 9cc=9c7_9d7 9dc=9a1_9bc 9dd=9a2_9bc
  9df=9af_9bc a33=a32_a3c a36=a38_a3c a59=a16_a3c a5a=a17_a3c a5b=a1c_a3c a5e=a2b_a3c
  b48=b47_b56 b4b=b47_b3e b4c=b47_b57 b5c=b21_b3c b5d=b22_b3c b94=b92_bd7 bca=bc6_bbe
  bcb=bc7_bbe bcc=bc6_bd7 c48=c46_c56 cc0=cbf_cd5 cc7=cc6_cd5 cc8=cc6_cd6 cca=cc6_cc2
  ccb=cc6_cc2_cd5 d4a=d46_d3e d4b=d47_d3e d4c=d46_d57 dda=dd9_dca ddc=dd9_dcf ddd=dd9_dcf_dca
  dde=dd9_ddf e33=e4d_e32 eb3=ecd_eb2 edc=eab_e99 edd=eab_ea1 f0c=f0b f43=f42_fb7 f4d=f4c_fb7
  f52=f51_fb7 f57=f56_fb7 f5c=f5b_fb7 f69=f40_fb5 f73=f71_f72 f75=f71_f74 f76=fb2_f80
  f77=fb2_f71_f80 f78=fb3_f80 f79=fb3_f71_f80 f81=f71_f80 f93=f92_fb7 f9d=f9c_fb7 fa2=fa1_fb7
  fa7=fa6_fb7 fac=fab_fb7 fb9=f90_fb5 1026=1025_102e 10fc=10dc 1b06=1b05_1b35 1b08=1b07_1b35
  1b0a=1b09_1b35 1b0c=1b0b_1b35 1b0e=1b0d_1b35 1b12=1b11_1b35 1b3b=1b3a_1b35 1b3d=1b3c_1b35
  1b40=1b3e_1b35 1b41=1b3f_1b35 1b43=1b42_1b35 1d2c=41 1d2d=c6 1d2e=42 1d30-1d31=44 1d32=18e
  1d33-1d3a=47 1d3c=4f 1d3d=222 1d3e=50 1d3f=52 1d40-1d41=54 1d42=57 1d43=61 1d44-1d45=250
  1d46=1d02 1d47=62 1d48-1d49=64 1d4a=259 1d4b-1d4c=25b 1d4d=67 1d4f=6b 1d50=6d 1d51=14b
  1d52=6f 1d53=254 1d54-1d55=1d16 1d56=70 1d57-1d58=74 1d59=1d1d 1d5a=26f 1d5b=76 1d5c=1d25
  1d5d-1d5f=3b2 1d60-1d61=3c6 1d62=69 1d63=72 1d64-1d65=75 1d66-1d67=3b2 1d68=3c1
  1d69-1d6a=3c6 1d78=43d 1d9b=252 1d9c=63 1d9d=255 1d9e=f0 1d9f=25c 1da0=66 1da1=25f 1da2=261
  1da3=265 1da4-1da6=268 1da7=1d7b 1da8=29d 1da9=26d 1daa=1d85 1dab=29f 1dac=271 1dad=270
  1dae-1db1=272 1db2=278 1db3-1db4=282 1db5=1ab 1db6-1db7=289 1db8=1d1c 1db9-1dba=28b 1dbb=7a
  1dbc-1dbe=290 1dbf=3b8 1e00=41_325 1e01=61_325 1e02=42_307 1e03=62_307 1e04=42_323
  1e05=62_323 1e06=42_331 1e07=62_331 1e08=43_327_301 1e09=63_327_301 1e0a=44_307 1e0b=64_307
  1e0c=44_323 1e0d=64_323 1e0e=44_331 1e0f=64_331 1e10=44_327 1e11=64_327 1e12=44_32d
  1e13=64_32d 1e14=45_304_300 1e15=65_304_300 1e16=45_304_301 1e17=65_304_301 1e18=45_32d
  1e19=65_32d 1e1a=45_330 1e1b=65_330 1e1c=45_327_306 1e1d=65_327_306 1e1e=46_307 1e1f=66_307
  1e20=47_304 1e21=67_304 1e22=48_307 1e23=68_307 1e24=48_323 1e25=68_323 1e26=48_308
  1e27=68_308 1e28=48_327 1e29=68_327 1e2a=48_32e 1e2b=68_32e 1e2c=49_330 1e2d=69_330
  1e2e=49_308_301 1e2f=69_308_301 1e30=4b_301 1e31=6b_301 1e32=4b_323 1e33=6b_323 1e34=4b_331
  1e35=6b_331 1e36=4c_323 1e37=6c_323 1e38=4c_323_304 1e39=6c_323_304 1e3a=4c_331 1e3b=6c_331
  1e3c=4c_32d 1e3d=6c_32d 1e3e=4d_301 1e3f=6d_301 1e40=4d_307 1e41=6d_307 1e42=4d_323
  1e43=6d_323 1e44=4e_307 1e45=6e_307 1e46=4e_323 1e47=6e_323 1e48=4e_331 1e49=6e_331
  1e4a=4e_32d 1e4b=6e_32d 1e4c=4f_303_301 1e4d=6f_303_301 1e4e=4f_303_308 1e4f=6f_303_308
  1e50=4f_304_300 1e51=6f_304_300 1e52=4f_304_301 1e53=6f_304_301 1e54=50_301 1e55=70_301
  1e56=50_307 1e57=70_307 1e58=52_307 1e59=72_307 1e5a=52_323 1e5b=72_323 1e5c=52_323_304
  1e5d=72_323_304 1e5e=52_331 1e5f=72_331 1e60=53_307 1e61=73_307 1e62=53_323 1e63=73_323
  1e64=53_301_307 1e65=73_301_307 1e66=53_30c_307 1e67=73_30c_307 1e68=53_323_307
  1e69=73_323_307 1e6a=54_307 1e6b=74_307 1e6c=54_323 1e6d=74_323 1e6e=54_331 1e6f=74_331
  1e70=54_32d 1e71=74_32d 1e72=55_324 1e73=75_324 1e74=55_330 1e75=75_330 1e76=55_32d
  1e77=75_32d 1e78=55_303_301 1e79=75_303_301 1e7a=55_304_308 1e7b=75_304_308 1e7c=56_303
  1e7d=76_303 1e7e=56_323 1e7f=76_323 1e80=57_300 1e81=77_300 1e82=57_301 1e83=77_301
  1e84=57_308 1e85=77_308 1e86=57_307 1e87=77_307 1e88=57_323 1e89=77_323 1e8a=58_307
  1e8b=78_307 1e8c=58_308 1e8d=78_308 1e8e=59_307 1e8f=79_307 1e90=5a_302 1e91=7a_302
  1e92=5a_323 1e93=7a_323 1e94=5a_331 1e95=7a_331 1e96=68_331 1e97=74_308 1e98=77_30a
  1e99=79_30a 1e9a=61_2be 1e9b=73_307 1ea0=41_323 1ea1=61_323 1ea2=41_309 1ea3=61_309
  1ea4=41_302_301 1ea5=61_302_301 1ea6=41_302_300 1ea7=61_302_300 1ea8=41_302_309
  1ea9=61_302_309 1eaa=41_302_303 1eab=61_302_303 1eac=41_323_302 1ead=61_323_302
  1eae=41_306_301 1eaf=61_306_301 1eb0=41_306_300 1eb1=61_306_300 1eb2=41_306_309
  1eb3=61_306_309 1eb4=41_306_303 1eb5=61_306_303 1eb6=41_323_306 1eb7=61_323_306 1eb8=45_323
  1eb9=65_323 1eba=45_309 1ebb=65_309 1ebc=45_303 1ebd=65_303 1ebe=45_302_301 1ebf=65_302_301
  1ec0=45_302_300 1ec1=65_302_300 1ec2=45_302_309 1ec3=65_302_309 1ec4=45_302_303
  1ec5=65_302_303 1ec6=45_323_302 1ec7=65_323_302 1ec8=49_309 1ec9=69_309 1eca=49_323
  1ecb=69_323 1ecc=4f_323 1ecd=6f_323 1ece=4f_309 1ecf=6f_309 1ed0=4f_302_301 1ed1=6f_302_301
  1ed2=4f_302_300 1ed3=6f_302_300 1ed4=4f_302_309 1ed5=6f_302_309 1ed6=4f_302_303
  1ed7=6f_302_303 1ed8=4f_323_302 1ed9=6f_323_302 1eda=4f_31b_301 1edb=6f_31b_301
  1edc=4f_31b_300 1edd=6f_31b_300 1ede=4f_31b_309 1edf=6f_31b_309 1ee0=4f_31b_303
  1ee1=6f_31b_303 1ee2=4f_31b_323 1ee3=6f_31b_323 1ee4=55_323 1ee5=75_323 1ee6=55_309
  1ee7=75_309 1ee8=55_31b_301 1ee9=75_31b_301 1eea=55_31b_300 1eeb=75_31b_300 1eec=55_31b_309
  1eed=75_31b_309 1eee=55_31b_303 1eef=75_31b_303 1ef0=55_31b_323 1ef1=75_31b_323 1ef2=59_300
  1ef3=79_300 1ef4=59_323 1ef5=79_323 1ef6=59_309 1ef7=79_309 1ef8=59_303 1ef9=79_303
  1f00=3b1_313 1f01=3b1_314 1f02=3b1_313_300 1f03=3b1_314_300 1f04=3b1_313_301
  1f05=3b1_314_301 1f06=3b1_313_342 1f07=3b1_314_342 1f08=391_313 1f09=391_314
  1f0a=391_313_300 1f0b=391_314_300 1f0c=391_313_301 1f0d=391_314_301 1f0e=391_313_342
  1f0f=391_314_342 1f10=3b5_313 1f11=3b5_314 1f12=3b5_313_300 1f13=3b5_314_300
  1f14=3b5_313_301 1f15=3b5_314_301 1f18=395_313 1f19=395_314 1f1a=395_313_300
  1f1b=395_314_300 1f1c=395_313_301 1f1d=395_314_301 1f20=3b7_313 1f21=3b7_314
  1f22=3b7_313_300 1f23=3b7_314_300 1f24=3b7_313_301 1f25=3b7_314_301 1f26=3b7_313_342
  1f27=3b7_314_342 1f28=397_313 1f29=397_314 1f2a=397_313_300 1f2b=397_314_300
  1f2c=397_313_301 1f2d=397_314_301 1f2e=397_313_342 1f2f=397_314_342 1f30=3b9_313
  1f31=3b9_314 1f32=3b9_313_300 1f33=3b9_314_300 1f34=3b9_313_301 1f35=3b9_314_301
  1f36=3b9_313_342 1f37=3b9_314_342 1f38=399_313 1f39=399_314 1f3a=399_313_300
  1f3b=399_314_300 1f3c=399_313_301 1f3d=399_314_301 1f3e=399_313_342 1f3f=399_314_342
  1f40=3bf_313 1f41=3bf_314 1f42=3bf_313_300 1f43=3bf_314_300 1f44=3bf_313_301
  1f45=3bf_314_301 1f48=39f_313 1f49=39f_314 1f4a=39f_313_300 1f4b=39f_314_300
  1f4c=39f_313_301 1f4d=39f_314_301 1f50=3c5_313 1f51=3c5_314 1f52=3c5_313_300
  1f53=3c5_314_300 1f54=3c5_313_301 1f55=3c5_314_301 1f56=3c5_313_342 1f57=3c5_314_342
  1f59=3a5_314 1f5b=3a5_314_300 1f5d=3a5_314_301 1f5f=3a5_314_342 1f60=3c9_313 1f61=3c9_314
  1f62=3c9_313_300 1f63=3c9_314_300 1f64=3c9_313_301 1f65=3c9_314_301 1f66=3c9_313_342
  1f67=3c9_314_342 1f68=3a9_313 1f69=3a9_314 1f6a=3a9_313_300 1f6b=3a9_314_300
  1f6c=3a9_313_301 1f6d=3a9_314_301 1f6e=3a9_313_342 1f6f=3a9_314_342 1f70=3b1_300
  1f71=3b1_301 1f72=3b5_300 1f73=3b5_301 1f74=3b7_300 1f75=3b7_301 1f76=3b9_300 1f77=3b9_301
  1f78=3bf_300 1f79=3bf_301 1f7a=3c5_300 1f7b=3c5_301 1f7c=3c9_300 1f7d=3c9_301
  1f80=3b1_313_345 1f81=3b1_314_345 1f82=3b1_313_300_345 1f83=3b1_314_300_345
  1f84=3b1_313_301_345 1f85=3b1_314_301_345 1f86=3b1_313_342_345 1f87=3b1_314_342_345
  1f88=391_313_345 1f89=391_314_345 1f8a=391_313_300_345 1f8b=391_314_300_345
  1f8c=391_313_301_345 1f8d=391_314_301_345 1f8e=391_313_342_345 1f8f=391_314_342_345
  1f90=3b7_313_345 1f91=3b7_314_345 1f92=3b7_313_300_345 1f93=3b7_314_300_345
  1f94=3b7_313_301_345 1f95=3b7_314_301_345 1f96=3b7_313_342_345 1f97=3b7_314_342_345
  1f98=397_313_345 1f99=397_314_345 1f9a=397_313_300_345 1f9b=397_314_300_345
  1f9c=397_313_301_345 1f9d=397_314_301_345 1f9e=397_313_342_345 1f9f=397_314_342_345
  1fa0=3c9_313_345 1fa1=3c9_314_345 1fa2=3c9_313_300_345 1fa3=3c9_314_300_345
  1fa4=3c9_313_301_345 1fa5=3c9_314_301_345 1fa6=3c9_313_342_345 1fa7=3c9_314_342_345
  1fa8=3a9_313_345 1fa9=3a9_314_345 1faa=3a9_313_300_345 1fab=3a9_314_300_345
  1fac=3a9_313_301_345 1fad=3a9_314_301_345 1fae=3a9_313_342_345 1faf=3a9_314_342_345
  1fb0=3b1_306 1fb1=3b1_304 1fb2=3b1_300_345 1fb3=3b1_345 1fb4=3b1_301_345 1fb6=3b1_342
  1fb7=3b1_342_345 1fb8=391_306 1fb9=391_304 1fba=391_300 1fbb=391_301 1fbc=391_345
  1fbd=20_313 1fbe=3b9 1fbf=20_313 1fc0=20_342 1fc1=20_308_342 1fc2=3b7_300_345 1fc3=3b7_345
  1fc4=3b7_301_345 1fc6=3b7_342 1fc7=3b7_342_345 1fc8=395_300 1fc9=395_301 1fca=397_300
  1fcb=397_301 1fcc=397_345 1fcd=20_313_300 1fce=20_313_301 1fcf=20_313_342 1fd0=3b9_306
  1fd1=3b9_304 1fd2=3b9_308_300 1fd3=3b9_308_301 1fd6=3b9_342 1fd7=3b9_308_342 1fd8=399_306
  1fd9=399_304 1fda=399_300 1fdb=399_301 1fdd=20_314_300 1fde=20_314_301 1fdf=20_314_342
  1fe0=3c5_306 1fe1=3c5_304 1fe2=3c5_308_300 1fe3=3c5_308_301 1fe4=3c1_313 1fe5=3c1_314
  1fe6=3c5_342 1fe7=3c5_308_342 1fe8=3a5_306 1fe9=3a5_304 1fea=3a5_300 1feb=3a5_301
  1fec=3a1_314 1fed=20_308_300 1fee=20_308_301 1fef=60 1ff2=3c9_300_345 1ff3=3c9_345
  1ff4=3c9_301_345 1ff6=3c9_342 1ff7=3c9_342_345 1ff8=39f_300 1ff9=39f_301 1ffa=3a9_300
  1ffb=3a9_301 1ffc=3a9_345 1ffd=20_301 1ffe=20_314 2000=20 2001=20 2002=20 2003=20 2004=20
  2005=20 2006=20 2007=20 2008=20 2009=20 200a=20 2011=2010 2017=20_333 2024=2e 2025=2e_2e
  2026=2e_2e_2e 202f=20 2033=2032_2032 2034=2032_2032_2032 2036=2035_2035 2037=2035_2035_2035
  203c=21_21 203e=20_305 2047=3f_3f 2048=3f_21 2049=21_3f 2057=2032_2032_2032_2032 205f=20
  2070=30 2071=69 2074-2079=34 207a=2b 207b=2212 207c=3d 207d-207e=28 207f=6e 2080-2089=30
  208a=2b 208b=2212 208c=3d 208d-208e=28 2090=61 2091=65 2092=6f 2093=78 2094=259 2095=68
  2096-2099=6b 209a=70 209b-209c=73 20a8=52_73 2100=61_2f_63 2101=61_2f_73 2102=43 2103=b0_43
  2105=63_2f_6f 2106=63_2f_75 2107=190 2109=b0_46 210a=67 210b=48 210c=48 210d=48 210e=68
  210f=127 2110=49 2111=49 2112=4c 2113=6c 2115=4e 2116=4e_6f 2119-211b=50 211c=52 211d=52
  2120=53_4d 2121=54_45_4c 2122=54_4d 2124=5a 2126=3a9 2128=5a 212a=4b 212b=41_30a
  212c-212d=42 212f=65 2130-2131=45 2133=4d 2134=6f 2135-2138=5d0 2139=69 213b=46_41_58
  213c=3c0 213d=3b3 213e=393 213f=3a0 2140=2211 2145=44 2146-2147=64 2148-2149=69
  2150=31_2044_37 2151=31_2044_39 2152=31_2044_31_30 2153=31_2044_33 2154=32_2044_33
  2155=31_2044_35 2156=32_2044_35 2157=33_2044_35 2158=34_2044_35 2159=31_2044_36
  215a=35_2044_36 215b=31_2044_38 215c=33_2044_38 215d=35_2044_38 215e=37_2044_38 215f=31_2044
  2160=49 2161=49_49 2162=49_49_49 2163=49_56 2164=56 2165=56_49 2166=56_49_49
  2167=56_49_49_49 2168=49_58 2169=58 216a=58_49 216b=58_49_49 216c=4c 216d-216e=43 216f=4d
  2170=69 2171=69_69 2172=69_69_69 2173=69_76 2174=76 2175=76_69 2176=76_69_69
  2177=76_69_69_69 2178=69_78 2179=78 217a=78_69 217b=78_69_69 217c=6c 217d-217e=63 217f=6d
  2189=30_2044_33 219a=2190_338 219b=2192_338 21ae=2194_338 21cd=21d0_338 21ce=21d4_338
  21cf=21d2_338 2204=2203_338 2209=2208_338 220c=220b_338 2224=2223_338 2226=2225_338
  222c=222b_222b 222d=222b_222b_222b 222f=222e_222e 2230=222e_222e_222e 2241=223c_338
  2244=2243_338 2247=2245_338 2249=2248_338 2260=3d_338 2262=2261_338 226d=224d_338
  226e=3c_338 226f=3e_338 2270=2264_338 2271=2265_338 2274=2272_338 2275=2273_338
  2278=2276_338 2279=2277_338 2280=227a_338 2281=227b_338 2284=2282_338 2285=2283_338
  2288=2286_338 2289=2287_338 22ac=22a2_338 22ad=22a8_338 22ae=22a9_338 22af=22ab_338
  22e0=227c_338 22e1=227d_338 22e2=2291_338 22e3=2292_338 22ea=22b2_338 22eb=22b3_338
  22ec=22b4_338 22ed=22b5_338 2329-232a=3008 2460-2468=31 2469=31_30 246a=31_31 246b=31_32
  246c=31_33 246d=31_34 246e=31_35 246f=31_36 2470=31_37 2471=31_38 2472=31_39 2473=32_30
  2474=28_31_29 2475=28_32_29 2476=28_33_29 2477=28_34_29 2478=28_35_29 2479=28_36_29
  247a=28_37_29 247b=28_38_29 247c=28_39_29 247d=28_31_30_29 247e=28_31_31_29 247f=28_31_32_29
  2480=28_31_33_29 2481=28_31_34_29 2482=28_31_35_29 2483=28_31_36_29 2484=28_31_37_29
  2485=28_31_38_29 2486=28_31_39_29 2487=28_32_30_29 2488=31_2e 2489=32_2e 248a=33_2e
  248b=34_2e 248c=35_2e 248d=36_2e 248e=37_2e 248f=38_2e 2490=39_2e 2491=31_30_2e
  2492=31_31_2e 2493=31_32_2e 2494=31_33_2e 2495=31_34_2e 2496=31_35_2e 2497=31_36_2e
  2498=31_37_2e 2499=31_38_2e 249a=31_39_2e 249b=32_30_2e 249c=28_61_29 249d=28_62_29
  249e=28_63_29 249f=28_64_29 24a0=28_65_29 24a1=28_66_29 24a2=28_67_29 24a3=28_68_29
  24a4=28_69_29 24a5=28_6a_29 24a6=28_6b_29 24a7=28_6c_29 24a8=28_6d_29 24a9=28_6e_29
  24aa=28_6f_29 24ab=28_70_29 24ac=28_71_29 24ad=28_72_29 24ae=28_73_29 24af=28_74_29
  24b0=28_75_29 24b1=28_76_29 24b2=28_77_29 24b3=28_78_29 24b4=28_79_29 24b5=28_7a_29
  24b6-24cf=41 24d0-24e9=61 24ea=30 2a0c=222b_222b_222b_222b 2a74=3a_3a_3d 2a75=3d_3d
  2a76=3d_3d_3d 2adc=2add_338 2c7c=6a 2c7d=56 2d6f=2d61 2e9f=6bcd 2ef3=9f9f 2f00=4e00
  2f01=4e28 2f02=4e36 2f03=4e3f 2f04=4e59 2f05=4e85 2f06=4e8c 2f07=4ea0 2f08=4eba 2f09=513f
  2f0a=5165 2f0b=516b 2f0c=5182 2f0d=5196 2f0e=51ab 2f0f=51e0 2f10=51f5 2f11=5200 2f12=529b
  2f13=52f9 2f14=5315 2f15=531a 2f16=5338 2f17=5341 2f18=535c 2f19=5369 2f1a=5382 2f1b=53b6
  2f1c=53c8 2f1d=53e3 2f1e=56d7 2f1f=571f 2f20=58eb 2f21=5902 2f22=590a 2f23=5915 2f24=5927
  2f25=5973 2f26=5b50 2f27=5b80 2f28=5bf8 2f29=5c0f 2f2a=5c22 2f2b=5c38 2f2c=5c6e 2f2d=5c71
  2f2e=5ddb 2f2f=5de5 2f30=5df1 2f31=5dfe 2f32=5e72 2f33=5e7a 2f34=5e7f 2f35=5ef4 2f36=5efe
  2f37=5f0b 2f38=5f13 2f39=5f50 2f3a=5f61 2f3b=5f73 2f3c=5fc3 2f3d=6208 2f3e=6236 2f3f=624b
  2f40=652f 2f41=6534 2f42=6587 2f43=6597 2f44=65a4 2f45=65b9 2f46=65e0 2f47=65e5 2f48=66f0
  2f49=6708 2f4a=6728 2f4b=6b20 2f4c=6b62 2f4d=6b79 2f4e=6bb3 2f4f=6bcb 2f50=6bd4 2f51=6bdb
  2f52=6c0f 2f53=6c14 2f54=6c34 2f55=706b 2f56=722a 2f57=7236 2f58=723b 2f59=723f 2f5a=7247
  2f5b=7259 2f5c=725b 2f5d=72ac 2f5e=7384 2f5f=7389 2f60=74dc 2f61=74e6 2f62=7518 2f63=751f
  2f64=7528 2f65=7530 2f66=758b 2f67=7592 2f68=7676 2f69=767d 2f6a=76ae 2f6b=76bf 2f6c=76ee
  2f6d=77db 2f6e=77e2 2f6f=77f3 2f70=793a 2f71=79b8 2f72=79be 2f73=7a74 2f74=7acb 2f75=7af9
  2f76=7c73 2f77=7cf8 2f78=7f36 2f79=7f51 2f7a=7f8a 2f7b=7fbd 2f7c=8001 2f7d=800c 2f7e=8012
  2f7f=8033 2f80=807f 2f81=8089 2f82=81e3 2f83=81ea 2f84=81f3 2f85=81fc 2f86=820c 2f87=821b
  2f88=821f 2f89=826e 2f8a=8272 2f8b=8278 2f8c=864d 2f8d=866b 2f8e=8840 2f8f=884c 2f90=8863
  2f91=897e 2f92=898b 2f93=89d2 2f94=8a00 2f95=8c37 2f96=8c46 2f97=8c55 2f98=8c78 2f99=8c9d
  2f9a=8d64 2f9b=8d70 2f9c=8db3 2f9d=8eab 2f9e=8eca 2f9f=8f9b 2fa0=8fb0 2fa1=8fb5 2fa2=9091
  2fa3=9149 2fa4=91c6 2fa5=91cc 2fa6=91d1 2fa7=9577 2fa8=9580 2fa9=961c 2faa=96b6 2fab=96b9
  2fac=96e8 2fad=9751 2fae=975e 2faf=9762 2fb0=9769 2fb1=97cb 2fb2=97ed 2fb3=97f3 2fb4=9801
  2fb5=98a8 2fb6=98db 2fb7=98df 2fb8=9996 2fb9=9999 2fba=99ac 2fbb=9aa8 2fbc=9ad8 2fbd=9adf
  2fbe=9b25 2fbf=9b2f 2fc0=9b32 2fc1=9b3c 2fc2=9b5a 2fc3=9ce5 2fc4=9e75 2fc5=9e7f 2fc6=9ea5
  2fc7=9ebb 2fc8=9ec3 2fc9=9ecd 2fca=9ed1 2fcb=9ef9 2fcc=9efd 2fcd=9f0e 2fce=9f13 2fcf=9f20
  2fd0=9f3b 2fd1=9f4a 2fd2=9f52 2fd3=9f8d 2fd4=9f9c 2fd5=9fa0 3000=20 3036=3012 3038=5341
  3039-303a=5344 304c=304b_3099 304e=304d_3099 3050=304f_3099 3052=3051_3099 3054=3053_3099
  3056=3055_3099 3058=3057_3099 305a=3059_3099 305c=305b_3099 305e=305d_3099 3060=305f_3099
  3062=3061_3099 3065=3064_3099 3067=3066_3099 3069=3068_3099 3070=306f_3099 3071=306f_309a
  3073=3072_3099 3074=3072_309a 3076=3075_3099 3077=3075_309a 3079=3078_3099 307a=3078_309a
  307c=307b_3099 307d=307b_309a 3094=3046_3099 309b=20_3099 309c=20_309a 309e=309d_3099
  309f=3088_308a 30ac=30ab_3099 30ae=30ad_3099 30b0=30af_3099 30b2=30b1_3099 30b4=30b3_3099
  30b6=30b5_3099 30b8=30b7_3099 30ba=30b9_3099 30bc=30bb_3099 30be=30bd_3099 30c0=30bf_3099
  30c2=30c1_3099 30c5=30c4_3099 30c7=30c6_3099 30c9=30c8_3099 30d0=30cf_3099 30d1=30cf_309a
  30d3=30d2_3099 30d4=30d2_309a 30d6=30d5_3099 30d7=30d5_309a 30d9=30d8_3099 30da=30d8_309a
  30dc=30db_3099 30dd=30db_309a 30f4=30a6_3099 30f7=30ef_3099 30f8=30f0_3099 30f9=30f1_3099
  30fa=30f2_3099 30fe=30fd_3099 30ff=30b3_30c8 3131-3132=1100 3133=11aa 3134=1102
  3135-3136=11ac 3137-3139=1103 313a-313f=11b0 3140=111a 3141-3143=1106 3144=1121
  3145-314e=1109 314f-3163=1161 3164=1160 3165-3166=1114 3167-3168=11c7 3169=11cc 316a=11ce
  316b=11d3 316c=11d7 316d=11d9 316e=111c 316f=11dd 3170=11df 3171-3172=111d 3173=1120
  3174-3175=1122 3176=1127 3177=1129 3178-317c=112b 317d=1132 317e=1136 317f=1140 3180=1147
  3181=114c 3182-3183=11f1 3184-3186=1157 3187-3188=1184 3189=1188 318a-318b=1191 318c=1194
  318d=119e 318e=11a1 3192=4e00 3193=4e8c 3194=4e09 3195=56db 3196=4e0a 3197=4e2d 3198=4e0b
  3199=7532 319a=4e59 319b=4e19 319c=4e01 319d=5929 319e=5730 319f=4eba 3200=28_1100_29
  3201=28_1102_29 3202=28_1103_29 3203=28_1105_29 3204=28_1106_29 3205=28_1107_29
  3206=28_1109_29 3207=28_110b_29 3208=28_110c_29 3209=28_110e_29 320a=28_110f_29
  320b=28_1110_29 320c=28_1111_29 320d=28_1112_29 320e=28_1100_1161_29 320f=28_1102_1161_29
  3210=28_1103_1161_29 3211=28_1105_1161_29 3212=28_1106_1161_29 3213=28_1107_1161_29
  3214=28_1109_1161_29 3215=28_110b_1161_29 3216=28_110c_1161_29 3217=28_110e_1161_29
  3218=28_110f_1161_29 3219=28_1110_1161_29 321a=28_1111_1161_29 321b=28_1112_1161_29
  321c=28_110c_116e_29 321d=28_110b_1169_110c_1165_11ab_29 321e=28_110b_1169_1112_116e_29
  3220=28_4e00_29 3221=28_4e8c_29 3222=28_4e09_29 3223=28_56db_29 3224=28_4e94_29
  3225=28_516d_29 3226=28_4e03_29 3227=28_516b_29 3228=28_4e5d_29 3229=28_5341_29
  322a=28_6708_29 322b=28_706b_29 322c=28_6c34_29 322d=28_6728_29 322e=28_91d1_29
  322f=28_571f_29 3230=28_65e5_29 3231=28_682a_29 3232=28_6709_29 3233=28_793e_29
  3234=28_540d_29 3235=28_7279_29 3236=28_8ca1_29 3237=28_795d_29 3238=28_52b4_29
  3239=28_4ee3_29 323a=28_547c_29 323b=28_5b66_29 323c=28_76e3_29 323d=28_4f01_29
  323e=28_8cc7_29 323f=28_5354_29 3240=28_796d_29 3241=28_4f11_29 3242=28_81ea_29
  3243=28_81f3_29 3244=554f 3245=5e7c 3246=6587 3247=7b8f 3250=50_54_45 3251=32_31 3252=32_32
  3253=32_33 3254=32_34 3255=32_35 3256=32_36 3257=32_37 3258=32_38 3259=32_39 325a=33_30
  325b=33_31 325c=33_32 325d=33_33 325e=33_34 325f=33_35 3260=1100 3261-3262=1102
  3263-3265=1105 3266=1109 3267-3268=110b 3269-326d=110e 326e=1100_1161 326f=1102_1161
  3270=1103_1161 3271=1105_1161 3272=1106_1161 3273=1107_1161 3274=1109_1161 3275=110b_1161
  3276=110c_1161 3277=110e_1161 3278=110f_1161 3279=1110_1161 327a=1111_1161 327b=1112_1161
  327c=110e_1161_11b7_1100_1169 327d=110c_116e_110b_1174 327e=110b_116e 3280=4e00 3281=4e8c
  3282=4e09 3283=56db 3284=4e94 3285=516d 3286=4e03 3287=516b 3288=4e5d 3289=5341 328a=6708
  328b=706b 328c=6c34 328d=6728 328e=91d1 328f=571f 3290=65e5 3291=682a 3292=6709 3293=793e
  3294=540d 3295=7279 3296=8ca1 3297=795d 3298=52b4 3299=79d8 329a=7537 329b=5973 329c=9069
  329d=512a 329e=5370 329f=6ce8 32a0=9805 32a1=4f11 32a2=5199 32a3=6b63 32a4=4e0a 32a5=4e2d
  32a6=4e0b 32a7=5de6 32a8=53f3 32a9=533b 32aa=5b97 32ab=5b66 32ac=76e3 32ad=4f01 32ae=8cc7
  32af=5354 32b0=591c 32b1=33_36 32b2=33_37 32b3=33_38 32b4=33_39 32b5=34_30 32b6=34_31
  32b7=34_32 32b8=34_33 32b9=34_34 32ba=34_35 32bb=34_36 32bc=34_37 32bd=34_38 32be=34_39
  32bf=35_30 32c0=31_6708 32c1=32_6708 32c2=33_6708 32c3=34_6708 32c4=35_6708 32c5=36_6708
  32c6=37_6708 32c7=38_6708 32c8=39_6708 32c9=31_30_6708 32ca=31_31_6708 32cb=31_32_6708
  32cc=48_67 32cd=65_72_67 32ce=65_56 32cf=4c_54_44 32d0=30a2 32d1=30a4 32d2=30a6 32d3=30a8
  32d4-32d5=30aa 32d6=30ad 32d7=30af 32d8=30b1 32d9=30b3 32da=30b5 32db=30b7 32dc=30b9
  32dd=30bb 32de=30bd 32df=30bf 32e0=30c1 32e1=30c4 32e2=30c6 32e3=30c8 32e4-32e9=30ca
  32ea=30d2 32eb=30d5 32ec=30d8 32ed=30db 32ee-32f2=30de 32f3=30e4 32f4=30e6 32f5-32fa=30e8
  32fb-32fe=30ef 32ff=4ee4_548c 3300=30a2_30cf_309a_30fc_30c8 3301=30a2_30eb_30d5_30a1
  3302=30a2_30f3_30d8_309a_30a2 3303=30a2_30fc_30eb 3304=30a4_30cb_30f3_30af_3099
  3305=30a4_30f3_30c1 3306=30a6_30a9_30f3 3307=30a8_30b9_30af_30fc_30c8_3099
  3308=30a8_30fc_30ab_30fc 3309=30aa_30f3_30b9 330a=30aa_30fc_30e0 330b=30ab_30a4_30ea
  330c=30ab_30e9_30c3_30c8 330d=30ab_30ed_30ea_30fc 330e=30ab_3099_30ed_30f3
  330f=30ab_3099_30f3_30de 3310=30ad_3099_30ab_3099 3311=30ad_3099_30cb_30fc
  3312=30ad_30e5_30ea_30fc 3313=30ad_3099_30eb_30bf_3099_30fc 3314=30ad_30ed
  3315=30ad_30ed_30af_3099_30e9_30e0 3316=30ad_30ed_30e1_30fc_30c8_30eb
  3317=30ad_30ed_30ef_30c3_30c8 3318=30af_3099_30e9_30e0 3319=30af_3099_30e9_30e0_30c8_30f3
  331a=30af_30eb_30bb_3099_30a4_30ed 331b=30af_30ed_30fc_30cd 331c=30b1_30fc_30b9
  331d=30b3_30eb_30ca 331e=30b3_30fc_30db_309a 331f=30b5_30a4_30af_30eb
  3320=30b5_30f3_30c1_30fc_30e0 3321=30b7_30ea_30f3_30af_3099 3322=30bb_30f3_30c1
  3323=30bb_30f3_30c8 3324=30bf_3099_30fc_30b9 3325=30c6_3099_30b7 3326=30c8_3099_30eb
  3327=30c8_30f3 3328=30ca_30ce 3329=30ce_30c3_30c8 332a=30cf_30a4_30c4
  332b=30cf_309a_30fc_30bb_30f3_30c8 332c=30cf_309a_30fc_30c4 332d=30cf_3099_30fc_30ec_30eb
  332e=30d2_309a_30a2_30b9_30c8_30eb 332f=30d2_309a_30af_30eb 3330=30d2_309a_30b3
  3331=30d2_3099_30eb 3332=30d5_30a1_30e9_30c3_30c8_3099 3333=30d5_30a3_30fc_30c8
  3334=30d5_3099_30c3_30b7_30a7_30eb 3335=30d5_30e9_30f3 3336=30d8_30af_30bf_30fc_30eb
  3337=30d8_309a_30bd 3338=30d8_309a_30cb_30d2 3339=30d8_30eb_30c4 333a=30d8_309a_30f3_30b9
  333b=30d8_309a_30fc_30b7_3099 333c=30d8_3099_30fc_30bf 333d=30db_309a_30a4_30f3_30c8
  333e=30db_3099_30eb_30c8 333f=30db_30f3 3340=30db_309a_30f3_30c8_3099 3341=30db_30fc_30eb
  3342=30db_30fc_30f3 3343=30de_30a4_30af_30ed 3344=30de_30a4_30eb 3345=30de_30c3_30cf
  3346=30de_30eb_30af 3347=30de_30f3_30b7_30e7_30f3 3348=30df_30af_30ed_30f3 3349=30df_30ea
  334a=30df_30ea_30cf_3099_30fc_30eb 334b=30e1_30ab_3099 334c=30e1_30ab_3099_30c8_30f3
  334d=30e1_30fc_30c8_30eb 334e=30e4_30fc_30c8_3099 334f=30e4_30fc_30eb 3350=30e6_30a2_30f3
  3351=30ea_30c3_30c8_30eb 3352=30ea_30e9 3353=30eb_30d2_309a_30fc
  3354=30eb_30fc_30d5_3099_30eb 3355=30ec_30e0 3356=30ec_30f3_30c8_30b1_3099_30f3
  3357=30ef_30c3_30c8 3358=30_70b9 3359=31_70b9 335a=32_70b9 335b=33_70b9 335c=34_70b9
  335d=35_70b9 335e=36_70b9 335f=37_70b9 3360=38_70b9 3361=39_70b9 3362=31_30_70b9
  3363=31_31_70b9 3364=31_32_70b9 3365=31_33_70b9 3366=31_34_70b9 3367=31_35_70b9
  3368=31_36_70b9 3369=31_37_70b9 336a=31_38_70b9 336b=31_39_70b9 336c=32_30_70b9
  336d=32_31_70b9 336e=32_32_70b9 336f=32_33_70b9 3370=32_34_70b9 3371=68_50_61 3372=64_61
  3373=41_55 3374=62_61_72 3375=6f_56 3376=70_63 3377=64_6d 3378=64_6d_32 3379=64_6d_33
  337a=49_55 337b=5e73_6210 337c=662d_548c 337d=5927_6b63 337e=660e_6cbb
  337f=682a_5f0f_4f1a_793e 3380=70_41 3381=6e_41 3382=3bc_41 3383=6d_41 3384=6b_41 3385=4b_42
  3386=4d_42 3387=47_42 3388=63_61_6c 3389=6b_63_61_6c 338a=70_46 338b=6e_46 338c=3bc_46
  338d=3bc_67 338e=6d_67 338f=6b_67 3390=48_7a 3391=6b_48_7a 3392=4d_48_7a 3393=47_48_7a
  3394=54_48_7a 3395=3bc_6c 3396=6d_6c 3397=64_6c 3398=6b_6c 3399=66_6d 339a=6e_6d 339b=3bc_6d
  339c=6d_6d 339d=63_6d 339e=6b_6d 339f=6d_6d_32 33a0=63_6d_32 33a1=6d_32 33a2=6b_6d_32
  33a3=6d_6d_33 33a4=63_6d_33 33a5=6d_33 33a6=6b_6d_33 33a7=6d_2215_73 33a8=6d_2215_73_32
  33a9=50_61 33aa=6b_50_61 33ab=4d_50_61 33ac=47_50_61 33ad=72_61_64 33ae=72_61_64_2215_73
  33af=72_61_64_2215_73_32 33b0=70_73 33b1=6e_73 33b2=3bc_73 33b3=6d_73 33b4=70_56 33b5=6e_56
  33b6=3bc_56 33b7=6d_56 33b8=6b_56 33b9=4d_56 33ba=70_57 33bb=6e_57 33bc=3bc_57 33bd=6d_57
  33be=6b_57 33bf=4d_57 33c0=6b_3a9 33c1=4d_3a9 33c2=61_2e_6d_2e 33c3=42_71 33c4=63_63
  33c5=63_64 33c6=43_2215_6b_67 33c7=43_6f_2e 33c8=64_42 33c9=47_79 33ca=68_61 33cb=48_50
  33cc=69_6e 33cd=4b_4b 33ce=4b_4d 33cf=6b_74 33d0=6c_6d 33d1=6c_6e 33d2=6c_6f_67 33d3=6c_78
  33d4=6d_62 33d5=6d_69_6c 33d6=6d_6f_6c 33d7=50_48 33d8=70_2e_6d_2e 33d9=50_50_4d 33da=50_52
  33db=73_72 33dc=53_76 33dd=57_62 33de=56_2215_6d 33df=41_2215_6d 33e0=31_65e5 33e1=32_65e5
  33e2=33_65e5 33e3=34_65e5 33e4=35_65e5 33e5=36_65e5 33e6=37_65e5 33e7=38_65e5 33e8=39_65e5
  33e9=31_30_65e5 33ea=31_31_65e5 33eb=31_32_65e5 33ec=31_33_65e5 33ed=31_34_65e5
  33ee=31_35_65e5 33ef=31_36_65e5 33f0=31_37_65e5 33f1=31_38_65e5 33f2=31_39_65e5
  33f3=32_30_65e5 33f4=32_31_65e5 33f5=32_32_65e5 33f6=32_33_65e5 33f7=32_34_65e5
  33f8=32_35_65e5 33f9=32_36_65e5 33fa=32_37_65e5 33fb=32_38_65e5 33fc=32_39_65e5
  33fd=33_30_65e5 33fe=33_31_65e5 33ff=67_61_6c a69c=44a a69d=44c a770=a76f a7f2=43 a7f3=46
  a7f4=51 a7f8=126 a7f9=153 ab5c=a727 ab5d=ab37 ab5e=26b ab5f=ab52 ab69=28d f900=8c48
  f901=66f4 f902=8eca f903=8cc8 f904=6ed1 f905=4e32 f906=53e5 f907=9f9c f908=9f9c f909=5951
  f90a=91d1 f90b=5587 f90c=5948 f90d=61f6 f90e=7669 f90f=7f85 f910=863f f911=87ba f912=88f8
  f913=908f f914=6a02 f915=6d1b f916=70d9 f917=73de f918=843d f919=916a f91a=99f1 f91b=4e82
  f91c=5375 f91d=6b04 f91e=721b f91f=862d f920=9e1e f921=5d50 f922=6feb f923=85cd f924=8964
  f925=62c9 f926=81d8 f927=881f f928=5eca f929=6717 f92a=6d6a f92b=72fc f92c=90ce f92d=4f86
  f92e=51b7 f92f=52de f930=64c4 f931=6ad3 f932=7210 f933=76e7 f934=8001 f935=8606 f936=865c
  f937=8def f938=9732 f939=9b6f f93a=9dfa f93b=788c f93c=797f f93d=7da0 f93e=83c9 f93f=9304
  f940=9e7f f941=8ad6 f942=58df f943=5f04 f944=7c60 f945=807e f946=7262 f947=78ca f948=8cc2
  f949=96f7 f94a=58d8 f94b=5c62 f94c=6a13 f94d=6dda f94e=6f0f f94f=7d2f f950=7e37 f951=964b
  f952=52d2 f953=808b f954=51dc f955=51cc f956=7a1c f957=7dbe f958=83f1 f959=9675 f95a=8b80
  f95b=62cf f95c=6a02 f95d=8afe f95e=4e39 f95f=5be7 f960=6012 f961=7387 f962=7570 f963=5317
  f964=78fb f965=4fbf f966=5fa9 f967=4e0d f968=6ccc f969=6578 f96a=7d22 f96b=53c3 f96c=585e
  f96d=7701 f96e=8449 f96f=8aaa f970=6bba f971=8fb0 f972=6c88 f973=62fe f974=82e5 f975=63a0
  f976=7565 f977=4eae f978=5169 f979=51c9 f97a=6881 f97b=7ce7 f97c=826f f97d=8ad2 f97e=91cf
  f97f=52f5 f980=5442 f981=5973 f982=5eec f983=65c5 f984=6ffe f985=792a f986=95ad f987=9a6a
  f988=9e97 f989=9ece f98a=529b f98b=66c6 f98c=6b77 f98d=8f62 f98e=5e74 f98f=6190 f990=6200
  f991=649a f992=6f23 f993=7149 f994=7489 f995=79ca f996=7df4 f997=806f f998=8f26 f999=84ee
  f99a=9023 f99b=934a f99c=5217 f99d=52a3 f99e=54bd f99f=70c8 f9a0=88c2 f9a1=8aaa f9a2=5ec9
  f9a3=5ff5 f9a4=637b f9a5=6bae f9a6=7c3e f9a7=7375 f9a8=4ee4 f9a9=56f9 f9aa=5be7 f9ab=5dba
  f9ac=601c f9ad=73b2 f9ae=7469 f9af=7f9a f9b0=8046 f9b1=9234 f9b2=96f6 f9b3=9748 f9b4=9818
  f9b5=4f8b f9b6=79ae f9b7=91b4 f9b8=96b8 f9b9=60e1 f9ba=4e86 f9bb=50da f9bc=5bee f9bd=5c3f
  f9be=6599 f9bf=6a02 f9c0=71ce f9c1=7642 f9c2=84fc f9c3=907c f9c4=9f8d f9c5=6688 f9c6=962e
  f9c7=5289 f9c8=677b f9c9=67f3 f9ca=6d41 f9cb=6e9c f9cc=7409 f9cd=7559 f9ce=786b f9cf=7d10
  f9d0=985e f9d1=516d f9d2=622e f9d3=9678 f9d4=502b f9d5=5d19 f9d6=6dea f9d7=8f2a f9d8=5f8b
  f9d9=6144 f9da=6817 f9db=7387 f9dc=9686 f9dd=5229 f9de=540f f9df=5c65 f9e0=6613 f9e1=674e
  f9e2=68a8 f9e3=6ce5 f9e4=7406 f9e5=75e2 f9e6=7f79 f9e7=88cf f9e8=88e1 f9e9=91cc f9ea=96e2
  f9eb=533f f9ec=6eba f9ed=541d f9ee=71d0 f9ef=7498 f9f0=85fa f9f1=96a3 f9f2=9c57 f9f3=9e9f
  f9f4=6797 f9f5=6dcb f9f6=81e8 f9f7=7acb f9f8=7b20 f9f9=7c92 f9fa=72c0 f9fb=7099 f9fc=8b58
  f9fd=4ec0 f9fe=8336 f9ff=523a fa00=5207 fa01=5ea6 fa02=62d3 fa03=7cd6 fa04=5b85 fa05=6d1e
  fa06=66b4 fa07=8f3b fa08=884c fa09=964d fa0a=898b fa0b=5ed3 fa0c=5140 fa0d=55c0 fa10=585a
  fa12=6674 fa15=51de fa16=732a fa17=76ca fa18=793c fa19=795e fa1a=7965 fa1b=798f fa1c=9756
  fa1d=7cbe fa1e=7fbd fa20=8612 fa22=8af8 fa25=9038 fa26=90fd fa2a=98ef fa2b=98fc fa2c=9928
  fa2d=9db4 fa2e=90de fa2f=96b7 fa30=4fae fa31=50e7 fa32=514d fa33=52c9 fa34=52e4 fa35=5351
  fa36=559d fa37=5606 fa38=5668 fa39=5840 fa3a=58a8 fa3b=5c64 fa3c=5c6e fa3d=6094 fa3e=6168
  fa3f=618e fa40=61f2 fa41=654f fa42=65e2 fa43=6691 fa44=6885 fa45=6d77 fa46=6e1a fa47=6f22
  fa48=716e fa49=722b fa4a=7422 fa4b=7891 fa4c=793e fa4d=7949 fa4e=7948 fa4f=7950 fa50=7956
  fa51=795d fa52-fa53=798d fa54=7a40 fa55=7a81 fa56=7bc0 fa57=7df4 fa58=7e09 fa59=7e41
  fa5a=7f72 fa5b=8005 fa5c=81ed fa5d=8279 fa5e=8279 fa5f=8457 fa60=8910 fa61=8996 fa62=8b01
  fa63=8b39 fa64=8cd3 fa65=8d08 fa66=8fb6 fa67=9038 fa68=96e3 fa69=97ff fa6a=983b fa6b=6075
  fa6c=242ee fa6d=8218 fa70=4e26 fa71=51b5 fa72=5168 fa73=4f80 fa74=5145 fa75=5180 fa76=52c7
  fa77=52fa fa78=559d fa79=5555 fa7a=5599 fa7b=55e2 fa7c=585a fa7d=58b3 fa7e=5944 fa7f=5954
  fa80=5a62 fa81=5b28 fa82=5ed2 fa83=5ed9 fa84=5f69 fa85=5fad fa86=60d8 fa87=614e fa88=6108
  fa89=618e fa8a=6160 fa8b=61f2 fa8c=6234 fa8d=63c4 fa8e=641c fa8f=6452 fa90=6556 fa91=6674
  fa92=6717 fa93=671b fa94=6756 fa95=6b79 fa96=6bba fa97=6d41 fa98=6edb fa99=6ecb fa9a=6f22
  fa9b=701e fa9c=716e fa9d=77a7 fa9e=7235 fa9f=72af faa0=732a faa1=7471 faa2=7506 faa3=753b
  faa4=761d faa5=761f faa6=76ca faa7=76db faa8=76f4 faa9=774a faaa=7740 faab=78cc faac=7ab1
  faad=7bc0 faae=7c7b faaf=7d5b fab0=7df4 fab1=7f3e fab2=8005 fab3=8352 fab4=83ef fab5=8779
  fab6=8941 fab7=8986 fab8=8996 fab9=8abf faba=8af8 fabb=8acb fabc=8b01 fabd=8afe fabe=8aed
  fabf=8b39 fac0=8b8a fac1=8d08 fac2=8f38 fac3=9072 fac4=9199 fac5=9276 fac6=967c fac7=96e3
  fac8=9756 fac9=97db faca=97ff facb=980b facc=983b facd=9b12 face=9f9c facf=2284a fad0=22844
  fad1=233d5 fad2=3b9d fad3=4018 fad4=4039 fad5=25249 fad6=25cd0 fad7=27ed3 fad8=9f43
  fad9=9f8e fb00=66_66 fb01=66_69 fb02=66_6c fb03=66_66_69 fb04=66_66_6c fb05=73_74 fb06=73_74
  fb13=574_576 fb14=574_565 fb15=574_56b fb16=57e_576 fb17=574_56d fb1d=5d9_5b4 fb1f=5f2_5b7
  fb20=5e2 fb21=5d0 fb22-fb23=5d3 fb24-fb26=5db fb27=5e8 fb28=5ea fb29=2b fb2a=5e9_5c1
  fb2b=5e9_5c2 fb2c=5e9_5bc_5c1 fb2d=5e9_5bc_5c2 fb2e=5d0_5b7 fb2f=5d0_5b8 fb30=5d0_5bc
  fb31=5d1_5bc fb32=5d2_5bc fb33=5d3_5bc fb34=5d4_5bc fb35=5d5_5bc fb36=5d6_5bc fb38=5d8_5bc
  fb39=5d9_5bc fb3a=5da_5bc fb3b=5db_5bc fb3c=5dc_5bc fb3e=5de_5bc fb40=5e0_5bc fb41=5e1_5bc
  fb43=5e3_5bc fb44=5e4_5bc fb46=5e6_5bc fb47=5e7_5bc fb48=5e8_5bc fb49=5e9_5bc fb4a=5ea_5bc
  fb4b=5d5_5b9 fb4c=5d1_5bf fb4d=5db_5bf fb4e=5e4_5bf fb4f=5d0_5dc fb50=671 fb51=671 fb52=67b
  fb53=67b fb54=67b fb55=67b fb56=67e fb57=67e fb58=67e fb59=67e fb5a=680 fb5b=680 fb5c=680
  fb5d=680 fb5e=67a fb5f=67a fb60=67a fb61=67a fb62=67f fb63=67f fb64=67f fb65=67f fb66=679
  fb67=679 fb68=679 fb69=679 fb6a=6a4 fb6b=6a4 fb6c=6a4 fb6d=6a4 fb6e=6a6 fb6f=6a6 fb70=6a6
  fb71=6a6 fb72=684 fb73=684 fb74=684 fb75=684 fb76=683 fb77=683 fb78=683 fb79=683 fb7a=686
  fb7b=686 fb7c=686 fb7d-fb7e=686 fb7f=687 fb80=687 fb81=687 fb82=68d fb83=68d fb84=68c
  fb85=68c fb86=68e fb87=68e fb88=688 fb89=688 fb8a=698 fb8b=698 fb8c=691 fb8d=691 fb8e=6a9
  fb8f=6a9 fb90=6a9 fb91=6a9 fb92=6af fb93=6af fb94=6af fb95=6af fb96=6b3 fb97=6b3 fb98=6b3
  fb99=6b3 fb9a=6b1 fb9b=6b1 fb9c=6b1 fb9d=6b1 fb9e=6ba fb9f-fba0=6ba fba1=6bb fba2=6bb
  fba3=6bb fba4=6d5_654 fba5=6d5_654 fba6=6c1 fba7=6c1 fba8=6c1 fba9=6c1 fbaa=6be fbab=6be
  fbac=6be fbad=6be fbae=6d2 fbaf=6d2 fbb0=6d2_654 fbb1=6d2_654 fbd3=6ad fbd4=6ad fbd5=6ad
  fbd6=6ad fbd7=6c7 fbd8=6c7 fbd9=6c6 fbda=6c6 fbdb=6c8 fbdc=6c8 fbdd=6c7_674 fbde=6cb
  fbdf=6cb fbe0=6c5 fbe1=6c5 fbe2=6c9 fbe3=6c9 fbe4=6d0 fbe5=6d0 fbe6=6d0 fbe7=6d0 fbe8=649
  fbe9=649 fbea=64a_654_627 fbeb=64a_654_627 fbec=64a_654_6d5 fbed=64a_654_6d5
  fbee=64a_654_648 fbef=64a_654_648 fbf0=64a_654_6c7 fbf1=64a_654_6c7 fbf2=64a_654_6c6
  fbf3=64a_654_6c6 fbf4=64a_654_6c8 fbf5=64a_654_6c8 fbf6=64a_654_6d0 fbf7=64a_654_6d0
  fbf8=64a_654_6d0 fbf9=64a_654_649 fbfa=64a_654_649 fbfb=64a_654_649 fbfc=6cc fbfd=6cc
  fbfe=6cc fbff=6cc fc00=64a_654_62c fc01=64a_654_62d fc02=64a_654_645 fc03=64a_654_649
  fc04=64a_654_64a fc05=628_62c fc06=628_62d fc07=628_62e fc08=628_645 fc09=628_649
  fc0a=628_64a fc0b=62a_62c fc0c=62a_62d fc0d=62a_62e fc0e=62a_645 fc0f=62a_649 fc10=62a_64a
  fc11=62b_62c fc12=62b_645 fc13=62b_649 fc14=62b_64a fc15=62c_62d fc16=62c_645 fc17=62d_62c
  fc18=62d_645 fc19=62e_62c fc1a=62e_62d fc1b=62e_645 fc1c=633_62c fc1d=633_62d fc1e=633_62e
  fc1f=633_645 fc20=635_62d fc21=635_645 fc22=636_62c fc23=636_62d fc24=636_62e fc25=636_645
  fc26=637_62d fc27=637_645 fc28=638_645 fc29=639_62c fc2a=639_645 fc2b=63a_62c fc2c=63a_645
  fc2d=641_62c fc2e=641_62d fc2f=641_62e fc30=641_645 fc31=641_649 fc32=641_64a fc33=642_62d
  fc34=642_645 fc35=642_649 fc36=642_64a fc37=643_627 fc38=643_62c fc39=643_62d fc3a=643_62e
  fc3b=643_644 fc3c=643_645 fc3d=643_649 fc3e=643_64a fc3f=644_62c fc40=644_62d fc41=644_62e
  fc42=644_645 fc43=644_649 fc44=644_64a fc45=645_62c fc46=645_62d fc47=645_62e fc48=645_645
  fc49=645_649 fc4a=645_64a fc4b=646_62c fc4c=646_62d fc4d=646_62e fc4e=646_645 fc4f=646_649
  fc50=646_64a fc51=647_62c fc52=647_645 fc53=647_649 fc54=647_64a fc55=64a_62c fc56=64a_62d
  fc57=64a_62e fc58=64a_645 fc59=64a_649 fc5a=64a_64a fc5b=630_670 fc5c=631_670 fc5d=649_670
  fc5e=20_64c_651 fc5f=20_64d_651 fc60=20_64e_651 fc61=20_64f_651 fc62=20_650_651
  fc63=20_651_670 fc64=64a_654_631 fc65=64a_654_632 fc66=64a_654_645 fc67=64a_654_646
  fc68=64a_654_649 fc69=64a_654_64a fc6a=628_631 fc6b=628_632 fc6c=628_645 fc6d=628_646
  fc6e=628_649 fc6f=628_64a fc70=62a_631 fc71=62a_632 fc72=62a_645 fc73=62a_646 fc74=62a_649
  fc75=62a_64a fc76=62b_631 fc77=62b_632 fc78=62b_645 fc79=62b_646 fc7a=62b_649 fc7b=62b_64a
  fc7c=641_649 fc7d=641_64a fc7e=642_649 fc7f=642_64a fc80=643_627 fc81=643_644 fc82=643_645
  fc83=643_649 fc84=643_64a fc85=644_645 fc86=644_649 fc87=644_64a fc88=645_627 fc89=645_645
  fc8a=646_631 fc8b=646_632 fc8c=646_645 fc8d=646_646 fc8e=646_649 fc8f=646_64a fc90=649_670
  fc91=64a_631 fc92=64a_632 fc93=64a_645 fc94=64a_646 fc95=64a_649 fc96=64a_64a
  fc97=64a_654_62c fc98=64a_654_62d fc99=64a_654_62e fc9a=64a_654_645 fc9b=64a_654_647
  fc9c=628_62c fc9d=628_62d fc9e=628_62e fc9f=628_645 fca0=628_647 fca1=62a_62c fca2=62a_62d
  fca3=62a_62e fca4=62a_645 fca5=62a_647 fca6=62b_645 fca7=62c_62d fca8=62c_645 fca9=62d_62c
  fcaa=62d_645 fcab=62e_62c fcac=62e_645 fcad=633_62c fcae=633_62d fcaf=633_62e fcb0=633_645
  fcb1=635_62d fcb2=635_62e fcb3=635_645 fcb4=636_62c fcb5=636_62d fcb6=636_62e fcb7=636_645
  fcb8=637_62d fcb9=638_645 fcba=639_62c fcbb=639_645 fcbc=63a_62c fcbd=63a_645 fcbe=641_62c
  fcbf=641_62d fcc0=641_62e fcc1=641_645 fcc2=642_62d fcc3=642_645 fcc4=643_62c fcc5=643_62d
  fcc6=643_62e fcc7=643_644 fcc8=643_645 fcc9=644_62c fcca=644_62d fccb=644_62e fccc=644_645
  fccd=644_647 fcce=645_62c fccf=645_62d fcd0=645_62e fcd1=645_645 fcd2=646_62c fcd3=646_62d
  fcd4=646_62e fcd5=646_645 fcd6=646_647 fcd7=647_62c fcd8=647_645 fcd9=647_670 fcda=64a_62c
  fcdb=64a_62d fcdc=64a_62e fcdd=64a_645 fcde=64a_647 fcdf=64a_654_645 fce0=64a_654_647
  fce1=628_645 fce2=628_647 fce3=62a_645 fce4=62a_647 fce5=62b_645 fce6=62b_647 fce7=633_645
  fce8=633_647 fce9=634_645 fcea=634_647 fceb=643_644 fcec=643_645 fced=644_645 fcee=646_645
  fcef=646_647 fcf0=64a_645 fcf1=64a_647 fcf2=640_64e_651 fcf3=640_64f_651 fcf4=640_650_651
  fcf5=637_649 fcf6=637_64a fcf7=639_649 fcf8=639_64a fcf9=63a_649 fcfa=63a_64a fcfb=633_649
  fcfc=633_64a fcfd=634_649 fcfe=634_64a fcff=62d_649 fd00=62d_64a fd01=62c_649 fd02=62c_64a
  fd03=62e_649 fd04=62e_64a fd05=635_649 fd06=635_64a fd07=636_649 fd08=636_64a fd09=634_62c
  fd0a=634_62d fd0b=634_62e fd0c=634_645 fd0d=634_631 fd0e=633_631 fd0f=635_631 fd10=636_631
  fd11=637_649 fd12=637_64a fd13=639_649 fd14=639_64a fd15=63a_649 fd16=63a_64a fd17=633_649
  fd18=633_64a fd19=634_649 fd1a=634_64a fd1b=62d_649 fd1c=62d_64a fd1d=62c_649 fd1e=62c_64a
  fd1f=62e_649 fd20=62e_64a fd21=635_649 fd22=635_64a fd23=636_649 fd24=636_64a fd25=634_62c
  fd26=634_62d fd27=634_62e fd28=634_645 fd29=634_631 fd2a=633_631 fd2b=635_631 fd2c=636_631
  fd2d=634_62c fd2e=634_62d fd2f=634_62e fd30=634_645 fd31=633_647 fd32=634_647 fd33=637_645
  fd34=633_62c fd35=633_62d fd36=633_62e fd37=634_62c fd38=634_62d fd39=634_62e fd3a=637_645
  fd3b=638_645 fd3c=627_64b fd3d=627_64b fd50=62a_62c_645 fd51=62a_62d_62c fd52=62a_62d_62c
  fd53=62a_62d_645 fd54=62a_62e_645 fd55=62a_645_62c fd56=62a_645_62d fd57=62a_645_62e
  fd58=62c_645_62d fd59=62c_645_62d fd5a=62d_645_64a fd5b=62d_645_649 fd5c=633_62d_62c
  fd5d=633_62c_62d fd5e=633_62c_649 fd5f=633_645_62d fd60=633_645_62d fd61=633_645_62c
  fd62=633_645_645 fd63=633_645_645 fd64=635_62d_62d fd65=635_62d_62d fd66=635_645_645
  fd67=634_62d_645 fd68=634_62d_645 fd69=634_62c_64a fd6a=634_645_62e fd6b=634_645_62e
  fd6c=634_645_645 fd6d=634_645_645 fd6e=636_62d_649 fd6f=636_62e_645 fd70=636_62e_645
  fd71=637_645_62d fd72=637_645_62d fd73=637_645_645 fd74=637_645_64a fd75=639_62c_645
  fd76=639_645_645 fd77=639_645_645 fd78=639_645_649 fd79=63a_645_645 fd7a=63a_645_64a
  fd7b=63a_645_649 fd7c=641_62e_645 fd7d=641_62e_645 fd7e=642_645_62d fd7f=642_645_645
  fd80=644_62d_645 fd81=644_62d_64a fd82=644_62d_649 fd83=644_62c_62c fd84=644_62c_62c
  fd85=644_62e_645 fd86=644_62e_645 fd87=644_645_62d fd88=644_645_62d fd89=645_62d_62c
  fd8a=645_62d_645 fd8b=645_62d_64a fd8c=645_62c_62d fd8d=645_62c_645 fd8e=645_62e_62c
  fd8f=645_62e_645 fd92=645_62c_62e fd93=647_645_62c fd94=647_645_645 fd95=646_62d_645
  fd96=646_62d_649 fd97=646_62c_645 fd98=646_62c_645 fd99=646_62c_649 fd9a=646_645_64a
  fd9b=646_645_649 fd9c=64a_645_645 fd9d=64a_645_645 fd9e=628_62e_64a fd9f=62a_62c_64a
  fda0=62a_62c_649 fda1=62a_62e_64a fda2=62a_62e_649 fda3=62a_645_64a fda4=62a_645_649
  fda5=62c_645_64a fda6=62c_62d_649 fda7=62c_645_649 fda8=633_62e_649 fda9=635_62d_64a
  fdaa=634_62d_64a fdab=636_62d_64a fdac=644_62c_64a fdad=644_645_64a fdae=64a_62d_64a
  fdaf=64a_62c_64a fdb0=64a_645_64a fdb1=645_645_64a fdb2=642_645_64a fdb3=646_62d_64a
  fdb4=642_645_62d fdb5=644_62d_645 fdb6=639_645_64a fdb7=643_645_64a fdb8=646_62c_62d
  fdb9=645_62e_64a fdba=644_62c_645 fdbb=643_645_645 fdbc=644_62c_645 fdbd=646_62c_62d
  fdbe=62c_62d_64a fdbf=62d_62c_64a fdc0=645_62c_64a fdc1=641_645_64a fdc2=628_62d_64a
  fdc3=643_645_645 fdc4=639_62c_645 fdc5=635_645_645 fdc6=633_62e_64a fdc7=646_62c_64a
  fdf0=635_644_6d2 fdf1=642_644_6d2 fdf2=627_644_644_647 fdf3=627_643_628_631
  fdf4=645_62d_645_62f fdf5=635_644_639_645 fdf6=631_633_648_644 fdf7=639_644_64a_647
  fdf8=648_633_644_645 fdf9=635_644_649
  fdfa=635_644_649_20_627_644_644_647_20_639_644_64a_647_20_648_633_644_645
  fdfb=62c_644_20_62c_644_627_644_647 fdfc=631_6cc_627_644 fe10=2c fe11-fe12=3001 fe13-fe14=3a
  fe15=21 fe16=3f fe17-fe18=3016 fe19=2e_2e_2e fe30=2e_2e fe31=2014 fe32=2013 fe33=5f fe34=5f
  fe35-fe36=28 fe37=7b fe38=7d fe39-fe3a=3014 fe3b-fe3c=3010 fe3d-fe3e=300a fe3f-fe40=3008
  fe41-fe44=300c fe47=5b fe48=5d fe49=20_305 fe4a=20_305 fe4b=20_305 fe4c=20_305 fe4d=5f
  fe4e=5f fe4f=5f fe50=2c fe51=3001 fe52=2e fe54=3b fe55=3a fe56=3f fe57=21 fe58=2014
  fe59-fe5a=28 fe5b=7b fe5c=7d fe5d-fe5e=3014 fe5f=23 fe60=26 fe61-fe62=2a fe63=2d fe64=3c
  fe65=3e fe66=3d fe68=5c fe69-fe6a=24 fe6b=40 fe70=20_64b fe71=640_64b fe72=20_64c
  fe74=20_64d fe76=20_64e fe77=640_64e fe78=20_64f fe79=640_64f fe7a=20_650 fe7b=640_650
  fe7c=20_651 fe7d=640_651 fe7e=20_652 fe7f=640_652 fe80=621 fe81=627_653 fe82=627_653
  fe83=627_654 fe84=627_654 fe85=648_654 fe86=648_654 fe87=627_655 fe88=627_655 fe89=64a_654
  fe8a=64a_654 fe8b=64a_654 fe8c=64a_654 fe8d=627 fe8e-fe8f=627 fe90=628 fe91=628
  fe92-fe93=628 fe94-fe95=629 fe96=62a fe97=62a fe98-fe99=62a fe9a=62b fe9b=62b fe9c-fe9d=62b
  fe9e=62c fe9f=62c fea0-fea1=62c fea2=62d fea3=62d fea4-fea5=62d fea6=62e fea7=62e
  fea8-fea9=62e feaa-feab=62f feac-fead=630 feae-feaf=631 feb0-feb1=632 feb2=633 feb3=633
  feb4-feb5=633 feb6=634 feb7=634 feb8-feb9=634 feba=635 febb=635 febc-febd=635 febe=636
  febf=636 fec0-fec1=636 fec2=637 fec3=637 fec4-fec5=637 fec6=638 fec7=638 fec8-fec9=638
  feca=639 fecb=639 fecc-fecd=639 fece=63a fecf=63a fed0=63a fed1=641 fed2=641 fed3=641
  fed4-fed5=641 fed6=642 fed7=642 fed8-fed9=642 feda=643 fedb=643 fedc-fedd=643 fede=644
  fedf=644 fee0-fee1=644 fee2=645 fee3=645 fee4-fee5=645 fee6=646 fee7=646 fee8-fee9=646
  feea=647 feeb=647 feec-feed=647 feee-feef=648 fef0-fef1=649 fef2=64a fef3=64a fef4=64a
  fef5=644_627_653 fef6=644_627_653 fef7=644_627_654 fef8=644_627_654 fef9=644_627_655
  fefa=644_627_655 fefb=644_627 fefc=644_627 ff01-ff5e=21 ff5f-ff60=2985 ff61=3002
  ff62-ff63=300c ff64=3001 ff65=30fb ff66=30f2 ff67=30a1 ff68=30a3 ff69=30a5 ff6a=30a7
  ff6b=30a9 ff6c=30e3 ff6d=30e5 ff6e=30e7 ff6f=30c3 ff70=30fc ff71=30a2 ff72=30a4 ff73=30a6
  ff74=30a8 ff75-ff76=30aa ff77=30ad ff78=30af ff79=30b1 ff7a=30b3 ff7b=30b5 ff7c=30b7
  ff7d=30b9 ff7e=30bb ff7f=30bd ff80=30bf ff81=30c1 ff82=30c4 ff83=30c6 ff84=30c8
  ff85-ff8a=30ca ff8b=30d2 ff8c=30d5 ff8d=30d8 ff8e=30db ff8f-ff93=30de ff94=30e4 ff95=30e6
  ff96-ff9b=30e8 ff9c=30ef ff9d=30f3 ff9e-ff9f=3099 ffa0=1160 ffa1-ffa2=1100 ffa3=11aa
  ffa4=1102 ffa5-ffa6=11ac ffa7-ffa9=1103 ffaa-ffaf=11b0 ffb0=111a ffb1-ffb3=1106 ffb4=1121
  ffb5-ffbe=1109 ffc2-ffc7=1161 ffca-ffcf=1167 ffd2-ffd7=116d ffda-ffdc=1173 ffe0-ffe1=a2
  ffe2=ac ffe3=20_304 ffe4=a6 ffe5=a5 ffe6=20a9 ffe8=2502 ffe9-ffec=2190 ffed=25a0 ffee=25cb
  10781-10782=2d0 10783=e6 10784=299 10785=253 10787=2a3 10788=ab66 10789=2a5 1078a=2a4
  1078b-1078c=256 1078d=1d91 1078e=258 1078f=25e 10790=2a9 10791=264 10792=262 10793=260
  10794=29b 10795=127 10796=29c 10797=267 10798=284 10799-1079a=2aa 1079b=26c 1079c=1df04
  1079d=a78e 1079e=26e 1079f=1df05 107a0=28e 107a1=1df06 107a2=f8 107a3-107a4=276 107a5=71
  107a6=27a 107a7=1df08 107a8-107a9=27d 107aa=280 107ab=2a8 107ac=2a6 107ad=ab67 107ae=2a7
  107af=288 107b0=2c71 107b2=28f 107b3-107b4=2a1 107b5=298 107b6-107b8=1c0 107b9=1df0a
  107ba=1df1e 1109a=11099_110ba 1109c=1109b_110ba 110ab=110a5_110ba 1112e=11131_11127
  1112f=11132_11127 1134b=11347_1133e 1134c=11347_11357 114bb=114b9_114ba 114bc=114b9_114b0
  114be=114b9_114bd 115ba=115b8_115af 115bb=115b9_115af 11938=11935_11930 1d15e=1d157_1d165
  1d15f=1d158_1d165 1d160=1d158_1d165_1d16e 1d161=1d158_1d165_1d16f 1d162=1d158_1d165_1d170
  1d163=1d158_1d165_1d171 1d164=1d158_1d165_1d172 1d1bb=1d1b9_1d165 1d1bc=1d1ba_1d165
  1d1bd=1d1b9_1d165_1d16e 1d1be=1d1ba_1d165_1d16e 1d1bf=1d1b9_1d165_1d16f
  1d1c0=1d1ba_1d165_1d16f 1d400-1d419=41 1d41a-1d433=61 1d434-1d44d=41 1d44e-1d454=61
  1d456-1d467=69 1d468-1d481=41 1d482-1d49b=61 1d49c=41 1d49e-1d49f=43 1d4a2=47 1d4a5-1d4a6=4a
  1d4a9-1d4ac=4e 1d4ae-1d4b5=53 1d4b6-1d4b9=61 1d4bb=66 1d4bd-1d4c3=68 1d4c5-1d4cf=70
  1d4d0-1d4e9=41 1d4ea-1d503=61 1d504-1d505=41 1d507-1d50a=44 1d50d-1d514=4a 1d516-1d51c=53
  1d51e-1d537=61 1d538-1d539=41 1d53b-1d53e=44 1d540-1d544=49 1d546=4f 1d54a-1d550=53
  1d552-1d56b=61 1d56c-1d585=41 1d586-1d59f=61 1d5a0-1d5b9=41 1d5ba-1d5d3=61 1d5d4-1d5ed=41
  1d5ee-1d607=61 1d608-1d621=41 1d622-1d63b=61 1d63c-1d655=41 1d656-1d66f=61 1d670-1d689=41
  1d68a-1d6a3=61 1d6a4=131 1d6a5=237 1d6a8-1d6b8=391 1d6b9=398 1d6ba-1d6c0=3a3 1d6c1=2207
  1d6c2-1d6da=3b1 1d6db=2202 1d6dc=3b5 1d6dd=3b8 1d6de=3ba 1d6df=3c6 1d6e0=3c1 1d6e1=3c0
  1d6e2-1d6f2=391 1d6f3=398 1d6f4-1d6fa=3a3 1d6fb=2207 1d6fc-1d714=3b1 1d715=2202 1d716=3b5
  1d717=3b8 1d718=3ba 1d719=3c6 1d71a=3c1 1d71b=3c0 1d71c-1d72c=391 1d72d=398 1d72e-1d734=3a3
  1d735=2207 1d736-1d74e=3b1 1d74f=2202 1d750=3b5 1d751=3b8 1d752=3ba 1d753=3c6 1d754=3c1
  1d755=3c0 1d756-1d766=391 1d767=398 1d768-1d76e=3a3 1d76f=2207 1d770-1d788=3b1 1d789=2202
  1d78a=3b5 1d78b=3b8 1d78c=3ba 1d78d=3c6 1d78e=3c1 1d78f=3c0 1d790-1d7a0=391 1d7a1=398
  1d7a2-1d7a8=3a3 1d7a9=2207 1d7aa-1d7c2=3b1 1d7c3=2202 1d7c4=3b5 1d7c5=3b8 1d7c6=3ba
  1d7c7=3c6 1d7c8=3c1 1d7c9=3c0 1d7ca-1d7cb=3dc 1d7ce-1d7d7=30 1d7d8-1d7e1=30 1d7e2-1d7eb=30
  1d7ec-1d7f5=30 1d7f6-1d7ff=30 1ee00-1ee01=627 1ee02=62c 1ee03=62f 1ee05=648 1ee06=632
  1ee07=62d 1ee08=637 1ee09=64a 1ee0a-1ee0d=643 1ee0e=633 1ee0f=639 1ee10=641 1ee11=635
  1ee12=642 1ee13=631 1ee14=634 1ee15-1ee16=62a 1ee17=62e 1ee18=630 1ee19=636 1ee1a=638
  1ee1b=63a 1ee1c=66e 1ee1d=6ba 1ee1e=6a1 1ee1f=66f 1ee21=628 1ee22=62c 1ee24=647 1ee27=62d
  1ee29=64a 1ee2a-1ee2d=643 1ee2e=633 1ee2f=639 1ee30=641 1ee31=635 1ee32=642 1ee34=634
  1ee35-1ee36=62a 1ee37=62e 1ee39=636 1ee3b=63a 1ee42=62c 1ee47=62d 1ee49=64a 1ee4b=644
  1ee4d=646 1ee4e=633 1ee4f=639 1ee51=635 1ee52=642 1ee54=634 1ee57=62e 1ee59=636 1ee5b=63a
  1ee5d=6ba 1ee5f=66f 1ee61=628 1ee62=62c 1ee64=647 1ee67=62d 1ee68=637 1ee69=64a 1ee6a=643
  1ee6c-1ee6d=645 1ee6e=633 1ee6f=639 1ee70=641 1ee71=635 1ee72=642 1ee74=634 1ee75-1ee76=62a
  1ee77=62e 1ee79=636 1ee7a=638 1ee7b=63a 1ee7c=66e 1ee7e=6a1 1ee80-1ee81=627 1ee82=62c
  1ee83=62f 1ee84-1ee85=647 1ee86=632 1ee87=62d 1ee88=637 1ee89=64a 1ee8b-1ee8d=644 1ee8e=633
  1ee8f=639 1ee90=641 1ee91=635 1ee92=642 1ee93=631 1ee94=634 1ee95-1ee96=62a 1ee97=62e
  1ee98=630 1ee99=636 1ee9a=638 1ee9b=63a 1eea1=628 1eea2=62c 1eea3=62f 1eea5=648 1eea6=632
  1eea7=62d 1eea8=637 1eea9=64a 1eeab-1eead=644 1eeae=633 1eeaf=639 1eeb0=641 1eeb1=635
  1eeb2=642 1eeb3=631 1eeb4=634 1eeb5-1eeb6=62a 1eeb7=62e 1eeb8=630 1eeb9=636 1eeba=638
  1eebb=63a 1f100=30_2e 1f101=30_2c 1f102=31_2c 1f103=32_2c 1f104=33_2c 1f105=34_2c
  1f106=35_2c 1f107=36_2c 1f108=37_2c 1f109=38_2c 1f10a=39_2c 1f110=28_41_29 1f111=28_42_29
  1f112=28_43_29 1f113=28_44_29 1f114=28_45_29 1f115=28_46_29 1f116=28_47_29 1f117=28_48_29
  1f118=28_49_29 1f119=28_4a_29 1f11a=28_4b_29 1f11b=28_4c_29 1f11c=28_4d_29 1f11d=28_4e_29
  1f11e=28_4f_29 1f11f=28_50_29 1f120=28_51_29 1f121=28_52_29 1f122=28_53_29 1f123=28_54_29
  1f124=28_55_29 1f125=28_56_29 1f126=28_57_29 1f127=28_58_29 1f128=28_59_29 1f129=28_5a_29
  1f12a=3014_53_3015 1f12b=43 1f12c=52 1f12d=43_44 1f12e=57_5a 1f130-1f149=41 1f14a=48_56
  1f14b=4d_56 1f14c=53_44 1f14d=53_53 1f14e=50_50_56 1f14f=57_43 1f16a=4d_43 1f16b=4d_44
  1f16c=4d_52 1f190=44_4a 1f200=307b_304b 1f201=30b3_30b3 1f202=30b5 1f210=624b 1f211=5b57
  1f212=53cc 1f213=30c6_3099 1f214=4e8c 1f215=591a 1f216=89e3 1f217=5929 1f218=4ea4 1f219=6620
  1f21a=7121 1f21b=6599 1f21c=524d 1f21d=5f8c 1f21e=518d 1f21f=65b0 1f220=521d 1f221=7d42
  1f222=751f 1f223=8ca9 1f224=58f0 1f225=5439 1f226=6f14 1f227=6295 1f228=6355 1f229=4e00
  1f22a=4e09 1f22b=904a 1f22c=5de6 1f22d=4e2d 1f22e=53f3 1f22f=6307 1f230=8d70 1f231=6253
  1f232=7981 1f233=7a7a 1f234=5408 1f235=6e80 1f236=6709 1f237=6708 1f238=7533 1f239=5272
  1f23a=55b6 1f23b=914d 1f240=3014_672c_3015 1f241=3014_4e09_3015 1f242=3014_4e8c_3015
  1f243=3014_5b89_3015 1f244=3014_70b9_3015 1f245=3014_6253_3015 1f246=3014_76d7_3015
  1f247=3014_52dd_3015 1f248=3014_6557_3015 1f250=5f97 1f251=53ef 1fbf0-1fbf9=30 2f800=4e3d
  2f801=4e38 2f802=4e41 2f803=20122 2f804=4f60 2f805=4fae 2f806=4fbb 2f807=5002 2f808=507a
  2f809=5099 2f80a=50e7 2f80b=50cf 2f80c=349e 2f80d=2063a 2f80e=514d 2f80f=5154 2f810=5164
  2f811=5177 2f812=2051c 2f813=34b9 2f814=5167 2f815=518d 2f816=2054b 2f817=5197 2f818=51a4
  2f819=4ecc 2f81a=51ac 2f81b=51b5 2f81c=291df 2f81d=51f5 2f81e=5203 2f81f=34df 2f820=523b
  2f821=5246 2f822=5272 2f823=5277 2f824=3515 2f825=52c7 2f826=52c9 2f827=52e4 2f828=52fa
  2f829-2f82a=5305 2f82b=5317 2f82c=5349 2f82d=5351 2f82e=535a 2f82f=5373 2f830=537d
  2f831=537f 2f832=537f 2f833=537f 2f834=20a2c 2f835=7070 2f836=53ca 2f837=53df 2f838=20b63
  2f839=53eb 2f83a=53f1 2f83b=5406 2f83c=549e 2f83d=5438 2f83e=5448 2f83f=5468 2f840=54a2
  2f841=54f6 2f842=5510 2f843=5553 2f844=5563 2f845=5584 2f846=5584 2f847=5599 2f848=55ab
  2f849=55b3 2f84a=55c2 2f84b=5716 2f84c=5606 2f84d=5717 2f84e=5651 2f84f=5674 2f850=5207
  2f851=58ee 2f852=57ce 2f853=57f4 2f854=580d 2f855=578b 2f856=5832 2f857=5831 2f858=58ac
  2f859=214e4 2f85a=58f2 2f85b=58f7 2f85c=5906 2f85d=591a 2f85e=5922 2f85f=5962 2f860=216a8
  2f861=216ea 2f862=59ec 2f863=5a1b 2f864=5a27 2f865=59d8 2f866=5a66 2f867=36ee 2f868=36fc
  2f869=5b08 2f86a=5b3e 2f86b=5b3e 2f86c=219c8 2f86d=5bc3 2f86e=5bd8 2f86f=5be7 2f870=5bf3
  2f871=21b18 2f872=5bff 2f873=5c06 2f874=5f53 2f875=5c22 2f876=3781 2f877=5c60 2f878=5c6e
  2f879=5cc0 2f87a=5c8d 2f87b=21de4 2f87c=5d43 2f87d=21de6 2f87e=5d6e 2f87f=5d6b 2f880=5d7c
  2f881-2f882=5de1 2f883=382f 2f884=5dfd 2f885=5e28 2f886=5e3d 2f887=5e69 2f888=3862
  2f889=22183 2f88a=387c 2f88b=5eb0 2f88c=5eb3 2f88d=5eb6 2f88e=5eca 2f88f=2a392 2f890=5efe
  2f891=22331 2f892=22331 2f893=8201 2f894=5f22 2f895=5f22 2f896=38c7 2f897=232b8 2f898=261da
  2f899=5f62 2f89a=5f6b 2f89b=38e3 2f89c=5f9a 2f89d=5fcd 2f89e=5fd7 2f89f=5ff9 2f8a0=6081
  2f8a1=393a 2f8a2=391c 2f8a3=6094 2f8a4=226d4 2f8a5=60c7 2f8a6=6148 2f8a7=614c 2f8a8=614e
  2f8a9=614c 2f8aa=617a 2f8ab=618e 2f8ac=61b2 2f8ad=61a4 2f8ae=61af 2f8af=61de 2f8b0=61f2
  2f8b1=61f6 2f8b2=6210 2f8b3=621b 2f8b4=625d 2f8b5=62b1 2f8b6=62d4 2f8b7=6350 2f8b8=22b0c
  2f8b9=633d 2f8ba=62fc 2f8bb=6368 2f8bc=6383 2f8bd=63e4 2f8be=22bf1 2f8bf=6422 2f8c0=63c5
  2f8c1=63a9 2f8c2=3a2e 2f8c3=6469 2f8c4=647e 2f8c5=649d 2f8c6=6477 2f8c7=3a6c 2f8c8=654f
  2f8c9=656c 2f8ca=2300a 2f8cb=65e3 2f8cc=66f8 2f8cd=6649 2f8ce=3b19 2f8cf=6691 2f8d0=3b08
  2f8d1=3ae4 2f8d2=5192 2f8d3=5195 2f8d4=6700 2f8d5=669c 2f8d6=80ad 2f8d7=43d9 2f8d8=6717
  2f8d9=671b 2f8da=6721 2f8db=675e 2f8dc=6753 2f8dd=233c3 2f8de=3b49 2f8df=67fa 2f8e0=6785
  2f8e1=6852 2f8e2=6885 2f8e3=2346d 2f8e4=688e 2f8e5=681f 2f8e6=6914 2f8e7=3b9d 2f8e8=6942
  2f8e9=69a3 2f8ea=69ea 2f8eb=6aa8 2f8ec=236a3 2f8ed=6adb 2f8ee=3c18 2f8ef=6b21 2f8f0=238a7
  2f8f1=6b54 2f8f2=3c4e 2f8f3=6b72 2f8f4=6b9f 2f8f5-2f8f6=6bba 2f8f7=23a8d 2f8f8=21d0b
  2f8f9=23afa 2f8fa=6c4e 2f8fb=23cbc 2f8fc=6cbf 2f8fd=6ccd 2f8fe=6c67 2f8ff=6d16 2f900=6d3e
  2f901=6d77 2f902=6d41 2f903=6d69 2f904=6d78 2f905=6d85 2f906=23d1e 2f907=6d34 2f908=6e2f
  2f909=6e6e 2f90a=3d33 2f90b=6ecb 2f90c=6ec7 2f90d=23ed1 2f90e=6df9 2f90f=6f6e 2f910=23f5e
  2f911=23f8e 2f912=6fc6 2f913=7039 2f914=701e 2f915=701b 2f916=3d96 2f917=704a 2f918=707d
  2f919=7077 2f91a=70ad 2f91b=20525 2f91c=7145 2f91d=24263 2f91e=719c 2f91f=243ab 2f920=7228
  2f921=7235 2f922=7250 2f923=24608 2f924=7280 2f925=7295 2f926=24735 2f927=24814 2f928=737a
  2f929=738b 2f92a=3eac 2f92b=73a5 2f92c=3eb8 2f92d=3eb8 2f92e=7447 2f92f=745c 2f930=7471
  2f931=7485 2f932=74ca 2f933=3f1b 2f934=7524 2f935=24c36 2f936=753e 2f937=24c92 2f938=7570
  2f939=2219f 2f93a=7610 2f93b=24fa1 2f93c=24fb8 2f93d=25044 2f93e=3ffc 2f93f=4008 2f940=76f4
  2f941=250f3 2f942=250f2 2f943=25119 2f944=25133 2f945-2f946=771e 2f947=771f 2f948=774a
  2f949=4039 2f94a=778b 2f94b=4046 2f94c=4096 2f94d=2541d 2f94e=784e 2f94f=788c 2f950=78cc
  2f951=40e3 2f952=25626 2f953=7956 2f954=2569a 2f955=256c5 2f956=798f 2f957=79eb 2f958=412f
  2f959=7a40 2f95a=7a4a 2f95b=7a4f 2f95c=2597c 2f95d=25aa7 2f95e=25aa7 2f95f=7aee 2f960=4202
  2f961=25bab 2f962=7bc6 2f963=7bc9 2f964=4227 2f965=25c80 2f966=7cd2 2f967=42a0 2f968=7ce8
  2f969=7ce3 2f96a=7d00 2f96b=25f86 2f96c=7d63 2f96d=4301 2f96e=7dc7 2f96f=7e02 2f970=7e45
  2f971=4334 2f972=26228 2f973=26247 2f974=4359 2f975=262d9 2f976=7f7a 2f977=2633e 2f978=7f95
  2f979=7ffa 2f97a=8005 2f97b=264da 2f97c=26523 2f97d=8060 2f97e=265a8 2f97f=8070 2f980=2335f
  2f981=43d5 2f982=80b2 2f983=8103 2f984=440b 2f985=813e 2f986=5ab5 2f987=267a7 2f988=267b5
  2f989=23393 2f98a=2339c 2f98b=8201 2f98c=8204 2f98d=8f9e 2f98e=446b 2f98f=8291 2f990=828b
  2f991=829d 2f992=52b3 2f993=82b1 2f994=82b3 2f995=82bd 2f996=82e6 2f997=26b3c 2f998=82e5
  2f999=831d 2f99a=8363 2f99b=83ad 2f99c=8323 2f99d=83bd 2f99e=83e7 2f99f=8457 2f9a0=8353
  2f9a1=83ca 2f9a2=83cc 2f9a3=83dc 2f9a4=26c36 2f9a5=26d6b 2f9a6=26cd5 2f9a7=452b 2f9a8=84f1
  2f9a9=84f3 2f9aa=8516 2f9ab=273ca 2f9ac=8564 2f9ad=26f2c 2f9ae=455d 2f9af=4561 2f9b0=26fb1
  2f9b1=270d2 2f9b2=456b 2f9b3=8650 2f9b4=865c 2f9b5=8667 2f9b6=8669 2f9b7=86a9 2f9b8=8688
  2f9b9=870e 2f9ba=86e2 2f9bb=8779 2f9bc=8728 2f9bd=876b 2f9be=8786 2f9bf=45d7 2f9c0=87e1
  2f9c1=8801 2f9c2=45f9 2f9c3=8860 2f9c4=8863 2f9c5=27667 2f9c6=88d7 2f9c7=88de 2f9c8=4635
  2f9c9=88fa 2f9ca=34bb 2f9cb=278ae 2f9cc=27966 2f9cd=46be 2f9ce=46c7 2f9cf=8aa0 2f9d0=8aed
  2f9d1=8b8a 2f9d2=8c55 2f9d3=27ca8 2f9d4=8cab 2f9d5=8cc1 2f9d6=8d1b 2f9d7=8d77 2f9d8=27f2f
  2f9d9=20804 2f9da=8dcb 2f9db=8dbc 2f9dc=8df0 2f9dd=208de 2f9de=8ed4 2f9df=8f38 2f9e0=285d2
  2f9e1=285ed 2f9e2=9094 2f9e3=90f1 2f9e4=9111 2f9e5=2872e 2f9e6=911b 2f9e7=9238
  2f9e8-2f9e9=92d7 2f9ea=927c 2f9eb=93f9 2f9ec=9415 2f9ed=28bfa 2f9ee=958b 2f9ef=4995
  2f9f0=95b7 2f9f1=28d77 2f9f2=49e6 2f9f3=96c3 2f9f4=5db2 2f9f5=9723 2f9f6=29145 2f9f7=2921a
  2f9f8=4a6e 2f9f9=4a76 2f9fa=97e0 2f9fb=2940a 2f9fc=4ab2 2f9fd=29496 2f9fe=980b 2f9ff=980b
  2fa00=9829 2fa01=295b6 2fa02=98e2 2fa03=4b33 2fa04=9929 2fa05=99a7 2fa06=99c2 2fa07=99fe
  2fa08=4bce 2fa09=29b30 2fa0a=9b12 2fa0b=9c40 2fa0c=9cfd 2fa0d=4cce 2fa0e=4ced 2fa0f=9d67
  2fa10=2a0ce 2fa11=4cf8 2fa12=2a105 2fa13=2a20e 2fa14=2a291 2fa15=9ebb 2fa16=4d56 2fa17=9ef9
  2fa18=9efe 2fa19=9f05 2fa1a=9f0f 2fa1b=9f16 2fa1c=9f3b 2fa1d=2a600"

def combiningClassRuns : String := "
  300-314=e6 315=e8 316-319=dc 31a=e8 31b=d8 31c-320=dc 321-322=ca 323-326=dc 327-328=ca
  329-333=dc 334-338=1 339-33c=dc 33d-344=e6 345=f0 346=e6 347-349=dc 34a-34c=e6 34d-34e=dc
  350-352=e6 353-356=dc 357=e6 358=e8 359-35a=dc 35b=e6 35c=e9 35d-35e=ea 35f=e9 360-361=ea
  362=e9 363-36f=e6 483-487=e6 591=dc 592-595=e6 596=dc 597-599=e6 59a=de 59b=dc 59c-5a1=e6
  5a2-5a7=dc 5a8-5a9=e6 5aa=dc 5ab-5ac=e6 5ad=de 5ae=e4 5af=e6 5b0=a 5b1=b 5b2=c 5b3=d 5b4=e
  5b5=f 5b6=10 5b7=11 5b8=12 5b9-5ba=13 5bb=14 5bc=15 5bd=16 5bf=17 5c1=18 5c2=19 5c4=e6
  5c5=dc 5c7=12 610-617=e6 618=1e 619=1f 61a=20 64b=1b 64c=1c 64d=1d 64e=1e 64f=1f 650=20
  651=21 652=22 653-654=e6 655-656=dc 657-65b=e6 65c=dc 65d-65e=e6 65f=dc 670=23 6d6-6dc=e6
  6df-6e2=e6 6e3=dc 6e4=e6 6e7-6e8=e6 6ea=dc 6eb-6ec=e6 6ed=dc 711=24 730=e6 731=dc 732-733=e6
  734=dc 735-736=e6 737-739=dc 73a=e6 73b-73c=dc 73d=e6 73e=dc 73f-741=e6 742=dc 743=e6 744=dc
  745=e6 746=dc 747=e6 748=dc 749-74a=e6 7eb-7f1=e6 7f2=dc 7f3=e6 7fd=dc 816-819=e6 81b-823=e6
  825-827=e6 829-82d=e6 859-85b=dc 898=e6 899-89b=dc 89c-89f=e6 8ca-8ce=e6 8cf-8d3=dc
  8d4-8e1=e6 8e3=dc 8e4-8e5=e6 8e6=dc 8e7-8e8=e6 8e9=dc 8ea-8ec=e6 8ed-8ef=dc 8f0=1b 8f1=1c
  8f2=1d 8f3-8f5=e6 8f6=dc 8f7-8f8=e6 8f9-8fa=dc 8fb-8ff=e6 93c=7 94d=9 951=e6 952=dc
  953-954=e6 9bc=7 9cd=9 9fe=e6 a3c=7 a4d=9 abc=7 acd=9 b3c=7 b4d=9 bcd=9 c3c=7 c4d=9 c55=54
  c56=5b cbc=7 ccd=9 d3b-d3c=9 d4d=9 dca=9 e38-e39=67 e3a=9 e48-e4b=6b eb8-eb9=76 eba=9
  ec8-ecb=7a f18-f19=dc f35=dc f37=dc f39=d8 f71=81 f72=82 f74=84 f7a-f7d=82 f80=82 f82-f83=e6
  f84=9 f86-f87=e6 fc6=dc 1037=7 1039-103a=9 108d=dc 135d-135f=e6 1714-1715=9 1734=9 17d2=9
  17dd=e6 18a9=e4 1939=de 193a=e6 193b=dc 1a17=e6 1a18=dc 1a60=9 1a75-1a7c=e6 1a7f=dc
  1ab0-1ab4=e6 1ab5-1aba=dc 1abb-1abc=e6 1abd=dc 1abf-1ac0=dc 1ac1-1ac2=e6 1ac3-1ac4=dc
  1ac5-1ac9=e6 1aca=dc 1acb-1ace=e6 1b34=7 1b44=9 1b6b=e6 1b6c=dc 1b6d-1b73=e6 1baa-1bab=9
  1be6=7 1bf2-1bf3=9 1c37=7 1cd0-1cd2=e6 1cd4=1 1cd5-1cd9=dc 1cda-1cdb=e6 1cdc-1cdf=dc 1ce0=e6
  1ce2-1ce8=1 1ced=dc 1cf4=e6 1cf8-1cf9=e6 1dc0-1dc1=e6 1dc2=dc 1dc3-1dc9=e6 1dca=dc
  1dcb-1dcc=e6 1dcd=ea 1dce=d6 1dcf=dc 1dd0=ca 1dd1-1df5=e6 1df6=e8 1df7-1df8=e4 1df9=dc
  1dfa=da 1dfb=e6 1dfc=e9 1dfd=dc 1dfe=e6 1dff=dc 20d0-20d1=e6 20d2-20d3=1 20d4-20d7=e6
  20d8-20da=1 20db-20dc=e6 20e1=e6 20e5-20e6=1 20e7=e6 20e8=dc 20e9=e6 20ea-20eb=1
  20ec-20ef=dc 20f0=e6 2cef-2cf1=e6 2d7f=9 2de0-2dff=e6 302a=da 302b=e4 302c=e8 302d=de
  302e-302f=e0 3099-309a=8 a66f=e6 a674-a67d=e6 a69e-a69f=e6 a6f0-a6f1=e6 a806=9 a82c=9 a8c4=9
  a8e0-a8f1=e6 a92b-a92d=dc a953=9 a9b3=7 a9c0=9 aab0=e6 aab2-aab3=e6 aab4=dc aab7-aab8=e6
  aabe-aabf=e6 aac1=e6 aaf6=9 abed=9 fb1e=1a fe20-fe26=e6 fe27-fe2d=dc fe2e-fe2f=e6 101fd=dc
  102e0=dc 10376-1037a=e6 10a0d=dc 10a0f=e6 10a38=e6 10a39=1 10a3a=dc 10a3f=9 10ae5=e6
  10ae6=dc 10d24-10d27=e6 10eab-10eac=e6 10f46-10f47=dc 10f48-10f4a=e6 10f4b=dc 10f4c=e6
  10f4d-10f50=dc 10f82=e6 10f83=dc 10f84=e6 10f85=dc 11046=9 11070=9 1107f=9 110b9=9 110ba=7
  11100-11102=e6 11133-11134=9 11173=7 111c0=9 111ca=7 11235=9 11236=7 112e9=7 112ea=9
  1133b-1133c=7 1134d=9 11366-1136c=e6 11370-11374=e6 11442=9 11446=7 1145e=e6 114c2=9 114c3=7
  115bf=9 115c0=7 1163f=9 116b6=9 116b7=7 1172b=9 11839=9 1183a=7 1193d-1193e=9 11943=7
  119e0=9 11a34=9 11a47=9 11a99=9 11c3f=9 11d42=7 11d44-11d45=9 11d97=9 16af0-16af4=1
  16b30-16b36=e6 16ff0-16ff1=6 1bc9e=1 1d165-1d166=d8 1d167-1d169=1 1d16d=e2 1d16e-1d172=d8
  1d17b-1d182=dc 1d185-1d189=e6 1d18a-1d18b=dc 1d1aa-1d1ad=e6 1d242-1d244=e6 1e000-1e006=e6
  1e008-1e018=e6 1e01b-1e021=e6 1e023-1e024=e6 1e026-1e02a=e6 1e130-1e136=e6 1e2ae=e6
  1e2ec-1e2ef=e6 1e8d0-1e8d6=dc 1e944-1e949=e6 1e94a=7"

def compositionPairs : String := "
  41_300=c0 41_301=c1 41_302=c2 41_303=c3 41_308=c4 41_30a=c5 43_327=c7 45_300=c8 45_301=c9
  45_302=ca 45_308=cb 49_300=cc 49_301=cd 49_302=ce 49_308=cf 4e_303=d1 4f_300=d2 4f_301=d3
  4f_302=d4 4f_303=d5 4f_308=d6 55_300=d9 55_301=da 55_302=db 55_308=dc 59_301=dd 61_300=e0
  61_301=e1 61_302=e2 61_303=e3 61_308=e4 61_30a=e5 63_327=e7 65_300=e8 65_301=e9 65_302=ea
  65_308=eb 69_300=ec 69_301=ed 69_302=ee 69_308=ef 6e_303=f1 6f_300=f2 6f_301=f3 6f_302=f4
  6f_303=f5 6f_308=f6 75_300=f9 75_301=fa 75_302=fb 75_308=fc 79_301=fd 79_308=ff 41_304=100
  61_304=101 41_306=102 61_306=103 41_328=104 61_328=105 43_301=106 63_301=107 43_302=108
  63_302=109 43_307=10a 63_307=10b 43_30c=10c 63_30c=10d 44_30c=10e 64_30c=10f 45_304=112
  65_304=113 45_306=114 65_306=115 45_307=116 65_307=117 45_328=118 65_328=119 45_30c=11a
  65_30c=11b 47_302=11c 67_302=11d 47_306=11e 67_306=11f 47_307=120 67_307=121 47_327=122
  67_327=123 48_302=124 68_302=125 49_303=128 69_303=129 49_304=12a 69_304=12b 49_306=12c
  69_306=12d 49_328=12e 69_328=12f 49_307=130 4a_302=134 6a_302=135 4b_327=136 6b_327=137
  4c_301=139 6c_301=13a 4c_327=13b 6c_327=13c 4c_30c=13d 6c_30c=13e 4e_301=143 6e_301=144
  4e_327=145 6e_327=146 4e_30c=147 6e_30c=148 4f_304=14c 6f_304=14d 4f_306=14e 6f_306=14f
  4f_30b=150 6f_30b=151 52_301=154 72_301=155 52_327=156 72_327=157 52_30c=158 72_30c=159
  53_301=15a 73_301=15b 53_302=15c 73_302=15d 53_327=15e 73_327=15f 53_30c=160 73_30c=161
  54_327=162 74_327=163 54_30c=164 74_30c=165 55_303=168 75_303=169 55_304=16a 75_304=16b
  55_306=16c 75_306=16d 55_30a=16e 75_30a=16f 55_30b=170 75_30b=171 55_328=172 75_328=173
  57_302=174 77_302=175 59_302=176 79_302=177 59_308=178 5a_301=179 7a_301=17a 5a_307=17b
  7a_307=17c 5a_30c=17d 7a_30c=17e 4f_31b=1a0 6f_31b=1a1 55_31b=1af 75_31b=1b0 41_30c=1cd
  61_30c=1ce 49_30c=1cf 69_30c=1d0 4f_30c=1d1 6f_30c=1d2 55_30c=1d3 75_30c=1d4 dc_304=1d5
  fc_304=1d6 dc_301=1d7 fc_301=1d8 dc_30c=1d9 fc_30c=1da dc_300=1db fc_300=1dc c4_304=1de
  e4_304=1df 226_304=1e0 227_304=1e1 c6_304=1e2 e6_304=1e3 47_30c=1e6 67_30c=1e7 4b_30c=1e8
  6b_30c=1e9 4f_328=1ea 6f_328=1eb 1ea_304=1ec 1eb_304=1ed 1b7_30c=1ee 292_30c=1ef 6a_30c=1f0
  47_301=1f4 67_301=1f5 4e_300=1f8 6e_300=1f9 c5_301=1fa e5_301=1fb c6_301=1fc e6_301=1fd
  d8_301=1fe f8_301=1ff 41_30f=200 61_30f=201 41_311=202 61_311=203 45_30f=204 65_30f=205
  45_311=206 65_311=207 49_30f=208 69_30f=209 49_311=20a 69_311=20b 4f_30f=20c 6f_30f=20d
  4f_311=20e 6f_311=20f 52_30f=210 72_30f=211 52_311=212 72_311=213 55_30f=214 75_30f=215
  55_311=216 75_311=217 53_326=218 73_326=219 54_326=21a 74_326=21b 48_30c=21e 68_30c=21f
  41_307=226 61_307=227 45_327=228 65_327=229 d6_304=22a f6_304=22b d5_304=22c f5_304=22d
  4f_307=22e 6f_307=22f 22e_304=230 22f_304=231 59_304=232 79_304=233 a8_301=385 391_301=386
  395_301=388 397_301=389 399_301=38a 39f_301=38c 3a5_301=38e 3a9_301=38f 3ca_301=390
  399_308=3aa 3a5_308=3ab 3b1_301=3ac 3b5_301=3ad 3b7_301=3ae 3b9_301=3af 3cb_301=3b0
  3b9_308=3ca 3c5_308=3cb 3bf_301=3cc 3c5_301=3cd 3c9_301=3ce 3d2_301=3d3 3d2_308=3d4
  415_300=400 415_308=401 413_301=403 406_308=407 41a_301=40c 418_300=40d 423_306=40e
  418_306=419 438_306=439 435_300=450 435_308=451 433_301=453 456_308=457 43a_301=45c
  438_300=45d 443_306=45e 474_30f=476 475_30f=477 416_306=4c1 436_306=4c2 410_306=4d0
  430_306=4d1 410_308=4d2 430_308=4d3 415_306=4d6 435_306=4d7 4d8_308=4da 4d9_308=4db
  416_308=4dc 436_308=4dd 417_308=4de 437_308=4df 418_304=4e2 438_304=4e3 418_308=4e4
  438_308=4e5 41e_308=4e6 43e_308=4e7 4e8_308=4ea 4e9_308=4eb 42d_308=4ec 44d_308=4ed
  423_304=4ee 443_304=4ef 423_308=4f0 443_308=4f1 423_30b=4f2 443_30b=4f3 427_308=4f4
  447_308=4f5 42b_308=4f8 44b_308=4f9 627_653=622 627_654=623 648_654=624 627_655=625
  64a_654=626 6d5_654=6c0 6c1_654=6c2 6d2_654=6d3 928_93c=929 930_93c=931 933_93c=934
  9c7_9be=9cb 9c7_9d7=9cc b47_b56=b48 b47_b3e=b4b b47_b57=b4c b92_bd7=b94 bc6_bbe=bca
  bc7_bbe=bcb bc6_bd7=bcc c46_c56=c48 cbf_cd5=cc0 cc6_cd5=cc7 cc6_cd6=cc8 cc6_cc2=cca
  cca_cd5=ccb d46_d3e=d4a d47_d3e=d4b d46_d57=d4c dd9_dca=dda dd9_dcf=ddc ddc_dca=ddd
  dd9_ddf=dde 1025_102e=1026 1b05_1b35=1b06 1b07_1b35=1b08 1b09_1b35=1b0a 1b0b_1b35=1b0c
  1b0d_1b35=1b0e 1b11_1b35=1b12 1b3a_1b35=1b3b 1b3c_1b35=1b3d 1b3e_1b35=1b40 1b3f_1b35=1b41
  1b42_1b35=1b43 41_325=1e00 61_325=1e01 42_307=1e02 62_307=1e03 42_323=1e04 62_323=1e05
  42_331=1e06 62_331=1e07 c7_301=1e08 e7_301=1e09 44_307=1e0a 64_307=1e0b 44_323=1e0c
  64_323=1e0d 44_331=1e0e 64_331=1e0f 44_327=1e10 64_327=1e11 44_32d=1e12 64_32d=1e13
  112_300=1e14 113_300=1e15 112_301=1e16 113_301=1e17 45_32d=1e18 65_32d=1e19 45_330=1e1a
  65_330=1e1b 228_306=1e1c 229_306=1e1d 46_307=1e1e 66_307=1e1f 47_304=1e20 67_304=1e21
  48_307=1e22 68_307=1e23 48_323=1e24 68_323=1e25 48_308=1e26 68_308=1e27 48_327=1e28
  68_327=1e29 48_32e=1e2a 68_32e=1e2b 49_330=1e2c 69_330=1e2d cf_301=1e2e ef_301=1e2f
  4b_301=1e30 6b_301=1e31 4b_323=1e32 6b_323=1e33 4b_331=1e34 6b_331=1e35 4c_323=1e36
  6c_323=1e37 1e36_304=1e38 1e37_304=1e39 4c_331=1e3a 6c_331=1e3b 4c_32d=1e3c 6c_32d=1e3d
  4d_301=1e3e 6d_301=1e3f 4d_307=1e40 6d_307=1e41 4d_323=1e42 6d_323=1e43 4e_307=1e44
  6e_307=1e45 4e_323=1e46 6e_323=1e47 4e_331=1e48 6e_331=1e49 4e_32d=1e4a 6e_32d=1e4b
  d5_301=1e4c f5_301=1e4d d5_308=1e4e f5_308=1e4f 14c_300=1e50 14d_300=1e51 14c_301=1e52
  14d_301=1e53 50_301=1e54 70_301=1e55 50_307=1e56 70_307=1e57 52_307=1e58 72_307=1e59
  52_323=1e5a 72_323=1e5b 1e5a_304=1e5c 1e5b_304=1e5d 52_331=1e5e 72_331=1e5f 53_307=1e60
  73_307=1e61 53_323=1e62 73_323=1e63 15a_307=1e64 15b_307=1e65 160_307=1e66 161_307=1e67
  1e62_307=1e68 1e63_307=1e69 54_307=1e6a 74_307=1e6b 54_323=1e6c 74_323=1e6d 54_331=1e6e
  74_331=1e6f 54_32d=1e70 74_32d=1e71 55_324=1e72 75_324=1e73 55_330=1e74 75_330=1e75
  55_32d=1e76 75_32d=1e77 168_301=1e78 169_301=1e79 16a_308=1e7a 16b_308=1e7b 56_303=1e7c
  76_303=1e7d 56_323=1e7e 76_323=1e7f 57_300=1e80 77_300=1e81 57_301=1e82 77_301=1e83
  57_308=1e84 77_308=1e85 57_307=1e86 77_307=1e87 57_323=1e88 77_323=1e89 58_307=1e8a
  78_307=1e8b 58_308=1e8c 78_308=1e8d 59_307=1e8e 79_307=1e8f 5a_302=1e90 7a_302=1e91
  5a_323=1e92 7a_323=1e93 5a_331=1e94 7a_331=1e95 68_331=1e96 74_308=1e97 77_30a=1e98
  79_30a=1e99 17f_307=1e9b 41_323=1ea0 61_323=1ea1 41_309=1ea2 61_309=1ea3 c2_301=1ea4
  e2_301=1ea5 c2_300=1ea6 e2_300=1ea7 c2_309=1ea8 e2_309=1ea9 c2_303=1eaa e2_303=1eab
  1ea0_302=1eac 1ea1_302=1ead 102_301=1eae 103_301=1eaf 102_300=1eb0 103_300=1eb1 102_309=1eb2
  103_309=1eb3 102_303=1eb4 103_303=1eb5 1ea0_306=1eb6 1ea1_306=1eb7 45_323=1eb8 65_323=1eb9
  45_309=1eba 65_309=1ebb 45_303=1ebc 65_303=1ebd ca_301=1ebe ea_301=1ebf ca_300=1ec0
  ea_300=1ec1 ca_309=1ec2 ea_309=1ec3 ca_303=1ec4 ea_303=1ec5 1eb8_302=1ec6 1eb9_302=1ec7
  49_309=1ec8 69_309=1ec9 49_323=1eca 69_323=1ecb 4f_323=1ecc 6f_323=1ecd 4f_309=1ece
  6f_309=1ecf d4_301=1ed0 f4_301=1ed1 d4_300=1ed2 f4_300=1ed3 d4_309=1ed4 f4_309=1ed5
  d4_303=1ed6 f4_303=1ed7 1ecc_302=1ed8 1ecd_302=1ed9 1a0_301=1eda 1a1_301=1edb 1a0_300=1edc
  1a1_300=1edd 1a0_309=1ede 1a1_309=1edf 1a0_303=1ee0 1a1_303=1ee1 1a0_323=1ee2 1a1_323=1ee3
  55_323=1ee4 75_323=1ee5 55_309=1ee6 75_309=1ee7 1af_301=1ee8 1b0_301=1ee9 1af_300=1eea
  1b0_300=1eeb 1af_309=1eec 1b0_309=1eed 1af_303=1eee 1b0_303=1eef 1af_323=1ef0 1b0_323=1ef1
  59_300=1ef2 79_300=1ef3 59_323=1ef4 79_323=1ef5 59_309=1ef6 79_309=1ef7 59_303=1ef8
  79_303=1ef9 3b1_313=1f00 3b1_314=1f01 1f00_300=1f02 1f01_300=1f03 1f00_301=1f04
  1f01_301=1f05 1f00_342=1f06 1f01_342=1f07 391_313=1f08 391_314=1f09 1f08_300=1f0a
  1f09_300=1f0b 1f08_301=1f0c 1f09_301=1f0d 1f08_342=1f0e 1f09_342=1f0f 3b5_313=1f10
  3b5_314=1f11 1f10_300=1f12 1f11_300=1f13 1f10_301=1f14 1f11_301=1f15 395_313=1f18
  395_314=1f19 1f18_300=1f1a 1f19_300=1f1b 1f18_301=1f1c 1f19_301=1f1d 3b7_313=1f20
  3b7_314=1f21 1f20_300=1f22 1f21_300=1f23 1f20_301=1f24 1f21_301=1f25 1f20_342=1f26
  1f21_342=1f27 397_313=1f28 397_314=1f29 1f28_300=1f2a 1f29_300=1f2b 1f28_301=1f2c
  1f29_301=1f2d 1f28_342=1f2e 1f29_342=1f2f 3b9_313=1f30 3b9_314=1f31 1f30_300=1f32
  1f31_300=1f33 1f30_301=1f34 1f31_301=1f35 1f30_342=1f36 1f31_342=1f37 399_313=1f38
  399_314=1f39 1f38_300=1f3a 1f39_300=1f3b 1f38_301=1f3c 1f39_301=1f3d 1f38_342=1f3e
  1f39_342=1f3f 3bf_313=1f40 3bf_314=1f41 1f40_300=1f42 1f41_300=1f43 1f40_301=1f44
  1f41_301=1f45 39f_313=1f48 39f_314=1f49 1f48_300=1f4a 1f49_300=1f4b 1f48_301=1f4c
  1f49_301=1f4d 3c5_313=1f50 3c5_314=1f51 1f50_300=1f52 1f51_300=1f53 1f50_301=1f54
  1f51_301=1f55 1f50_342=1f56 1f51_342=1f57 3a5_314=1f59 1f59_300=1f5b 1f59_301=1f5d
  1f59_342=1f5f 3c9_313=1f60 3c9_314=1f61 1f60_300=1f62 1f61_300=1f63 1f60_301=1f64
  1f61_301=1f65 1f60_342=1f66 1f61_342=1f67 3a9_313=1f68 3a9_314=1f69 1f68_300=1f6a
  1f69_300=1f6b 1f68_301=1f6c 1f69_301=1f6d 1f68_342=1f6e 1f69_342=1f6f 3b1_300=1f70
  3b5_300=1f72 3b7_300=1f74 3b9_300=1f76 3bf_300=1f78 3c5_300=1f7a 3c9_300=1f7c 1f00_345=1f80
  1f01_345=1f81 1f02_345=1f82 1f03_345=1f83 1f04_345=1f84 1f05_345=1f85 1f06_345=1f86
  1f07_345=1f87 1f08_345=1f88 1f09_345=1f89 1f0a_345=1f8a 1f0b_345=1f8b 1f0c_345=1f8c
  1f0d_345=1f8d 1f0e_345=1f8e 1f0f_345=1f8f 1f20_345=1f90 1f21_345=1f91 1f22_345=1f92
  1f23_345=1f93 1f24_345=1f94 1f25_345=1f95 1f26_345=1f96 1f27_345=1f97 1f28_345=1f98
  1f29_345=1f99 1f2a_345=1f9a 1f2b_345=1f9b 1f2c_345=1f9c 1f2d_345=1f9d 1f2e_345=1f9e
  1f2f_345=1f9f 1f60_345=1fa0 1f61_345=1fa1 1f62_345=1fa2 1f63_345=1fa3 1f64_345=1fa4
  1f65_345=1fa5 1f66_345=1fa6 1f67_345=1fa7 1f68_345=1fa8 1f69_345=1fa9 1f6a_345=1faa
  1f6b_345=1fab 1f6c_345=1fac 1f6d_345=1fad 1f6e_345=1fae 1f6f_345=1faf 3b1_306=1fb0
  3b1_304=1fb1 1f70_345=1fb2 3b1_345=1fb3 3ac_345=1fb4 3b1_342=1fb6 1fb6_345=1fb7 391_306=1fb8
  391_304=1fb9 391_300=1fba 391_345=1fbc a8_342=1fc1 1f74_345=1fc2 3b7_345=1fc3 3ae_345=1fc4
  3b7_342=1fc6 1fc6_345=1fc7 395_300=1fc8 397_300=1fca 397_345=1fcc 1fbf_300=1fcd
  1fbf_301=1fce 1fbf_342=1fcf 3b9_306=1fd0 3b9_304=1fd1 3ca_300=1fd2 3b9_342=1fd6 3ca_342=1fd7
  399_306=1fd8 399_304=1fd9 399_300=1fda 1ffe_300=1fdd 1ffe_301=1fde 1ffe_342=1fdf
  3c5_306=1fe0 3c5_304=1fe1 3cb_300=1fe2 3c1_313=1fe4 3c1_314=1fe5 3c5_342=1fe6 3cb_342=1fe7
  3a5_306=1fe8 3a5_304=1fe9 3a5_300=1fea 3a1_314=1fec a8_300=1fed 1f7c_345=1ff2 3c9_345=1ff3
  3ce_345=1ff4 3c9_342=1ff6 1ff6_345=1ff7 39f_300=1ff8 3a9_300=1ffa 3a9_345=1ffc 2190_338=219a
  2192_338=219b 2194_338=21ae 21d0_338=21cd 21d4_338=21ce 21d2_338=21cf 2203_338=2204
  2208_338=2209 220b_338=220c 2223_338=2224 2225_338=2226 223c_338=2241 2243_338=2244
  2245_338=2247 2248_338=2249 3d_338=2260 2261_338=2262 224d_338=226d 3c_338=226e 3e_338=226f
  2264_338=2270 2265_338=2271 2272_338=2274 2273_338=2275 2276_338=2278 2277_338=2279
  227a_338=2280 227b_338=2281 2282_338=2284 2283_338=2285 2286_338=2288 2287_338=2289
  22a2_338=22ac 22a8_338=22ad 22a9_338=22ae 22ab_338=22af 227c_338=22e0 227d_338=22e1
  2291_338=22e2 2292_338=22e3 22b2_338=22ea 22b3_338=22eb 22b4_338=22ec 22b5_338=22ed
  304b_3099=304c 304d_3099=304e 304f_3099=3050 3051_3099=3052 3053_3099=3054 3055_3099=3056
  3057_3099=3058 3059_3099=305a 305b_3099=305c 305d_3099=305e 305f_3099=3060 3061_3099=3062
  3064_3099=3065 3066_3099=3067 3068_3099=3069 306f_3099=3070 306f_309a=3071 3072_3099=3073
  3072_309a=3074 3075_3099=3076 3075_309a=3077 3078_3099=3079 3078_309a=307a 307b_3099=307c
  307b_309a=307d 3046_3099=3094 309d_3099=309e 30ab_3099=30ac 30ad_3099=30ae 30af_3099=30b0
  30b1_3099=30b2 30b3_3099=30b4 30b5_3099=30b6 30b7_3099=30b8 30b9_3099=30ba 30bb_3099=30bc
  30bd_3099=30be 30bf_3099=30c0 30c1_3099=30c2 30c4_3099=30c5 30c6_3099=30c7 30c8_3099=30c9
  30cf_3099=30d0 30cf_309a=30d1 30d2_3099=30d3 30d2_309a=30d4 30d5_3099=30d6 30d5_309a=30d7
  30d8_3099=30d9 30d8_309a=30da 30db_3099=30dc 30db_309a=30dd 30a6_3099=30f4 30ef_3099=30f7
  30f0_3099=30f8 30f1_3099=30f9 30f2_3099=30fa 30fd_3099=30fe 11099_110ba=1109a
  1109b_110ba=1109c 110a5_110ba=110ab 11131_11127=1112e 11132_11127=1112f 11347_1133e=1134b
  11347_11357=1134c 114b9_114ba=114bb 114b9_114b0=114bc 114b9_114bd=114be 115b8_115af=115ba
  115b9_115af=115bb 11935_11930=11938"

end RepoAtlas.Text
